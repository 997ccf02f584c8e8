import SocketLoop.Queue.Basic

/-! Feeding the pending entries to a callback. The head is taken anew before each call, so a
callback may queue, take or remove entries and may feed entries to a callback itself. -/
namespace SocketLoop.Queue

variable {α σ : Type}

structure Site (α σ : Type) where
  queue : Queue α
  outside : σ

/-- Calls the callback with the head until nothing is pending. The fuel bounds the number of calls
made here. -/
def dispatch (call : Entry α → Site α σ → Site α σ) : Nat → Site α σ → Site α σ
  | 0, site => site
  | fuel + 1, site =>
    match site.queue.dequeue with
    | (none, _) => site
    | (some entry, queue) => dispatch call fuel (call entry { site with queue })

end SocketLoop.Queue

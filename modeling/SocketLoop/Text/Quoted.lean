import SocketLoop.Text.Unseen

/-! Text between quotation marks, so that every character of it can be told apart. -/
namespace SocketLoop.Text

/-- How a character is written between quotation marks: a few controls, the backslash and the
quotation mark have short forms, and what leaves no mark of its own is written by its number. -/
def written (c : Char) : List Char :=
  match c with
  | '\x00' => ['\\', '0']
  | '\t' => ['\\', 't']
  | '\n' => ['\\', 'n']
  | '\r' => ['\\', 'r']
  | '"' => ['\\', '"']
  | '\\' => ['\\', '\\']
  | c =>
    if isUnseen c then ['\\', 'u', '\x7b'] ++ Nat.toDigits 16 c.toNat ++ ['\x7d'] else [c]

def quoted (text : String) : String :=
  String.ofList ('"' :: text.toList.flatMap written ++ ['"'])

end SocketLoop.Text

import LiteralFlow.Text.Unprintable

/-!
Texts between double quotes for reports, with quotes, backslashes and
unprintable characters escaped.
-/

namespace LiteralFlow.Text

def inspectChar (c : Char) : List Char :=
  match c with
  | '\x22' => ['\\', '\x22']
  | '\\' => ['\\', '\\']
  | '\x00' => ['\\', '0']
  | '\t' => ['\\', 't']
  | '\n' => ['\\', 'n']
  | '\r' => ['\\', 'r']
  | _ =>
      if isUnprintable c then ['\\', 'u', '\x7b'] ++ Nat.toDigits 16 c.toNat ++ ['\x7d'] else [c]

def inspect (text : String) : String :=
  String.ofList ('\x22' :: text.toList.flatMap inspectChar ++ ['\x22'])

end LiteralFlow.Text

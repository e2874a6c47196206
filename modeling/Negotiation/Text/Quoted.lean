/-
# Negotiation.Text.Quoted -- quoted text

Texts inside messages are quoted: the quote and the backslash are written after a
backslash, line breaks and tabs by their letters, and every other character that
cannot be shown by its code point.
-/

import Negotiation.Text.Hex
import Negotiation.Text.Printable

namespace Negotiation.Text

/-- A character as it is written between quotes. -/
def escape (c : Char) : List Char :=
  match c with
  | '"' => ['\\', '"']
  | '\\' => ['\\', '\\']
  | '\n' => ['\\', 'n']
  | '\t' => ['\\', 't']
  | '\r' => ['\\', 'r']
  | '\x00' => ['\\', '0']
  | _ => if isPrintable c then [c] else ("\\u\x7b" ++ Hex.ofNat c.toNat ++ "\x7d").toList

/-- A text between quotes. -/
def quote (text : String) : String :=
  "\"" ++ String.ofList (text.toList.flatMap escape) ++ "\""

end Negotiation.Text

import RouteDiscovery.Text.Hidden
import RouteDiscovery.Text.Numeral

/-!
Text between double quotes. The quote and the backslash are escaped, common controls have short
escapes, and a hidden character is written by its code point.
-/
namespace RouteDiscovery.Text

def escapeChar (c : Char) : String :=
  match c with
  | '\x00' => "\\0"
  | '\t' => "\\t"
  | '\n' => "\\n"
  | '\r' => "\\r"
  | '"' => "\\\""
  | '\\' => "\\\\"
  | c => if isHidden c then "\\u\x7b" ++ hexNumber c.toNat ++ "\x7d" else c.toString

def quote (text : String) : String :=
  "\"" ++ String.join (text.toList.map escapeChar) ++ "\""

end RouteDiscovery.Text

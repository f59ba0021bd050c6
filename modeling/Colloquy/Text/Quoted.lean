import Colloquy.Text.Visible

/-!
# Quoted text

Text between double quotes in which every character that does not show is
written as an escape: `\t`, `\r`, `\n` and `\0` for the common controls, a
backslash before quotes and backslashes, and the code point in hexadecimal for
all others.
-/

namespace Colloquy.Text

def hexDigits (value : Nat) : List Char :=
  Nat.toDigits 16 value

def codePointEscape (c : Char) : List Char :=
  ['\\', 'u', '\x7b'] ++ hexDigits c.toNat ++ ['\x7d']

/-- One character inside quotes. An apostrophe is escaped only on request. -/
def quoteChar (escapeApostrophe : Bool) (c : Char) : List Char :=
  if c = '\x00' then ['\\', '0']
  else if c = '\t' then ['\\', 't']
  else if c = '\r' then ['\\', 'r']
  else if c = '\n' then ['\\', 'n']
  else if c = '"' ∨ c = '\\' ∨ (c = '\x27' ∧ escapeApostrophe) then ['\\', c]
  else if isVisible c then [c]
  else codePointEscape c

def quote (escapeApostrophe : Bool) (text : String) : String :=
  String.ofList ('"' :: text.toList.flatMap (quoteChar escapeApostrophe) ++ ['"'])

end Colloquy.Text

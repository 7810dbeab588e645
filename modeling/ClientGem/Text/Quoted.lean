import ClientGem.Unicode.Properties

/-!
A text in quotes, with every character that would not show escaped, and as a string of JSON.
-/

namespace ClientGem.Text

def isInvisible (c : Char) : Bool :=
  Unicode.attachedRanges.contains c || Unicode.invisibleRanges.contains c

def hexDigits (n : Nat) : List Char :=
  Nat.toDigits 16 n

def quotedChar (c : Char) : List Char :=
  if c = '\x00' then ['\\', '0']
  else if c = '\t' then ['\\', 't']
  else if c = '\r' then ['\\', 'r']
  else if c = '\n' then ['\\', 'n']
  else if c = '\\' ∨ c = '"' then ['\\', c]
  else if isInvisible c then ['\\', 'u', '\x7b'] ++ hexDigits c.toNat ++ ['\x7d']
  else [c]

def quoted (s : String) : String :=
  String.ofList ('"' :: s.toList.flatMap quotedChar ++ ['"'])

def paddedHexDigits (c : Char) : List Char :=
  let digits := hexDigits c.toNat
  List.replicate (4 - digits.length) '0' ++ digits

def jsonChar (c : Char) : List Char :=
  if c = '"' ∨ c = '\\' then ['\\', c]
  else if c < ' ' then '\\' :: 'u' :: paddedHexDigits c
  else [c]

def jsonString (s : String) : String :=
  String.ofList ('"' :: s.toList.flatMap jsonChar ++ ['"'])

end ClientGem.Text

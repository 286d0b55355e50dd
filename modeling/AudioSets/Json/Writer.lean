import AudioSets.Json.Value
import AudioSets.Text.Hex

namespace AudioSets.Json

def escape (c : Char) : List Char :=
  if c = '"' then ['\\', '"']
  else if c = '\\' then ['\\', '\\']
  else if c = '\n' then ['\\', 'n']
  else if c = '\r' then ['\\', 'r']
  else if c = '\t' then ['\\', 't']
  else if c = '\x08' then ['\\', 'b']
  else if c = '\x0c' then ['\\', 'f']
  else if c.toNat < 0x20 then '\\' :: 'u' :: Text.Hex.fixed 4 c.toNat
  else [c]

def Symbol.write : Symbol → List Char
  | .char c => escape c
  | .unit n => '\\' :: 'u' :: Text.Hex.fixed 4 n

def Text.write (t : Text) : List Char := '"' :: (t.flatMap Symbol.write ++ ['"'])

mutual

def writeChars : Json → List Char
  | .null => ['n', 'u', 'l', 'l']
  | .bool true => ['t', 'r', 'u', 'e']
  | .bool false => ['f', 'a', 'l', 's', 'e']
  | .number ds => ds
  | .string s => s.write
  | .array vs => '[' :: (writeItems vs ++ [']'])
  | .object ms => '\x7b' :: (writeMembers ms ++ ['\x7d'])

def writeItems : List Json → List Char
  | [] => []
  | [v] => writeChars v
  | v :: vs => writeChars v ++ ',' :: writeItems vs

def writeMembers : List (Text × Json) → List Char
  | [] => []
  | [(k, v)] => k.write ++ ':' :: writeChars v
  | (k, v) :: ms => k.write ++ ':' :: writeChars v ++ ',' :: writeMembers ms

end

def write (v : Json) : String := String.ofList v.writeChars

end AudioSets.Json

import Mathlib.Algebra.Group.Nat.Defs

/-!
# Compact JSON text

What Python's `json.dumps` writes with `separators=(",", ":")`: no blanks, and every character but
the printable ones of ASCII as an escape. Objects are written with their fields in the order in
which they are listed.
-/
namespace CompactJson

inductive Json where
  | null
  | bool (b : Bool)
  | int (n : Int)
  | text (s : String)
  | object (fields : List (String × Json))

def hex4 (n : Nat) : String :=
  String.ofList ((List.range 4).map fun i => Nat.digitChar (n / 16 ^ (3 - i) % 16))

def escape (c : Char) : String :=
  let n := c.toNat
  if c = '"' then "\\\""
  else if c = '\\' then "\\\\"
  else if n = 8 then "\\b"
  else if n = 9 then "\\t"
  else if n = 10 then "\\n"
  else if n = 12 then "\\f"
  else if n = 13 then "\\r"
  else if n < 32 then "\\u" ++ hex4 n
  else if n < 127 then c.toString
  else if n < 65536 then "\\u" ++ hex4 n
  -- A surrogate pair.
  else "\\u" ++ hex4 (55296 + (n - 65536) / 1024) ++ "\\u" ++ hex4 (56320 + (n - 65536) % 1024)

def quote (s : String) : String := "\"" ++ String.join (s.toList.map escape) ++ "\""

mutual

def Json.dumps : Json → String
  | .null => "null"
  | .bool true => "true"
  | .bool false => "false"
  | .int n => toString n
  | .text s => quote s
  | .object fields => "\x7b" ++ ",".intercalate (dumpsFields fields) ++ "\x7d"

def dumpsFields : List (String × Json) → List String
  | [] => []
  | (name, value) :: rest => (quote name ++ ":" ++ value.dumps) :: dumpsFields rest

end

def optional {α : Type} (f : α → Json) : Option α → Json
  | none => .null
  | some a => f a

example : (Json.object [("a", .int 12), ("b", .text "é\""), ("c", .null)]).dumps =
    "\x7b\"a\":12,\"b\":\"\\u00e9\\\"\",\"c\":null\x7d" := by decide +kernel

end CompactJson

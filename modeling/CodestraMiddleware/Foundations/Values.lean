import CodestraMiddleware.Foundations.Json
import Mathlib.Data.List.Sort

/-!
# What a JSON text denotes in Python

The values that `json.loads` makes, with the operations of the language that do not ask for a type
first: `==`, `str`, iteration, membership in a set, and `json.dumps` with `sort_keys=True`. Booleans
and numbers of both kinds are equal when they are the same number.
-/
namespace PythonValue

open CompactJson

inductive Value where
  | null
  | bool (b : Bool)
  | int (n : Int)
  | float (bits : BitVec 64)
  | str (s : String)
  | list (items : List Value)
  | dict (entries : List (String × Value))

inductive Number where
  | finite (multiple : Int)
  | infinite (negative : Bool)
  | nan
  deriving DecidableEq

def unit : Int := (2 ^ 1074 : Nat)

def Number.ofBits (bits : BitVec 64) : Number :=
  let exponent := (bits.extractLsb' 52 11).toNat
  let fraction := (bits.extractLsb' 0 52).toNat
  if exponent = 2047 then if fraction = 0 then .infinite bits.msb else .nan
  else
    -- The leading digit of a subnormal number is not implied.
    let magnitude : Nat :=
      if exponent = 0 then fraction else (2 ^ 52 + fraction) * 2 ^ (exponent - 1)
    .finite (if bits.msb then -(magnitude : Int) else magnitude)

namespace Value

def number? : Value → Option Number
  | .bool b => some (.finite (if b then unit else 0))
  | .int n => some (.finite (n * unit))
  | .float bits => some (.ofBits bits)
  | _ => none

mutual

def eq : Value → Value → Bool
  | .null, .null => true
  | .str s, .str s' => decide (s = s')
  | .list items, .list items' => eqItems items items'
  | .dict entries, .dict entries' =>
    decide (entries.length = entries'.length) && eqEntries entries entries'
  | v, v' =>
    match v.number?, v'.number? with
    | some x, some x' => decide (x = x' ∧ x ≠ .nan)
    | _, _ => false

def eqItems : List Value → List Value → Bool
  | [], [] => true
  | v :: items, v' :: items' => v.eq v' && eqItems items items'
  | _, _ => false

/-- Dicts are equal in whatever order their entries came. -/
def eqEntries : List (String × Value) → List (String × Value) → Bool
  | [], _ => true
  | (name, v) :: entries, entries' =>
    (match entries'.lookup name with
      | some v' => v.eq v'
      | none => false) && eqEntries entries entries'

end

@[simp] theorem eq_str (v : Value) (s : String) : v.eq (.str s) = true ↔ v = .str s := by
  cases v <;> simp [eq, number?]

example : (Value.bool true).eq (.float 0x3ff0000000000000#64) = true := by decide +kernel

/-! ## Sets, iteration, texts -/

def hashable : Value → Bool
  | .list _ | .dict _ => false
  | _ => true

/-- `v in names`, where `names` are the members of a set or the keys of a dict, or `none` where `v`
cannot be hashed. -/
def isIn (v : Value) (names : List String) : Option Bool :=
  if v.hashable then some (names.any fun name => v.eq (.str name)) else none

theorem isIn_eq_true_iff {v : Value} : v.isIn names = some true ↔
    ∃ name ∈ names, v = .str name := by
  unfold isIn
  split
  · simp
  next unhashable =>
    simp only [reduceCtorEq, false_iff, not_exists, not_and]
    rintro name - rfl
    exact unhashable rfl

def truthy : Value → Bool
  | .null => false
  | .bool b => b
  | .int n => n ≠ 0
  | .float bits => Number.ofBits bits ≠ .finite 0
  | .str s => s ≠ ""
  | .list items => !items.isEmpty
  | .dict entries => !entries.isEmpty

def orElse (v w : Value) : Value := if v.truthy then v else w

def isTrue : Value → Bool
  | .bool b => b
  | _ => false

def text? : Value → Option String
  | .str s => some s
  | _ => none

theorem text?_eq_some_iff {v : Value} : v.text? = some s ↔ v = .str s := by
  cases v <;> simp [text?]

/-- What iterating over a value gives, or `none` where it cannot be iterated over. -/
def iterate : Value → Option (List Value)
  | .str s => some (s.toList.map fun c => .str c.toString)
  | .list items => some items
  | .dict entries => some (entries.map fun entry => .str entry.1)
  | _ => none

structure Texts where
  float : BitVec 64 → String
  container : Value → String

def toText (texts : Texts) : Value → String
  | .null => "None"
  | .bool true => "True"
  | .bool false => "False"
  | .int n => toString n
  | .float bits => texts.float bits
  | .str s => s
  | v => texts.container v

mutual

/-- `json.dumps` with `sort_keys=True` and `separators=(",", ":")`. -/
def dumps (texts : Texts) : Value → String
  | .null => "null"
  | .bool true => "true"
  | .bool false => "false"
  | .int n => toString n
  | .float bits => texts.float bits
  | .str s => quote s
  | .list items => "[" ++ ",".intercalate (dumpsItems texts items) ++ "]"
  | .dict entries =>
    let sorted := (dumpsEntries texts entries).insertionSort fun a b => a.1 ≤ b.1
    "\x7b" ++ ",".intercalate (sorted.map fun entry => quote entry.1 ++ ":" ++ entry.2) ++ "\x7d"

def dumpsItems (texts : Texts) : List Value → List String
  | [] => []
  | v :: items => dumps texts v :: dumpsItems texts items

def dumpsEntries (texts : Texts) : List (String × Value) → List (String × String)
  | [] => []
  | (name, v) :: entries => (name, dumps texts v) :: dumpsEntries texts entries

end

example : (Value.dict [("b", .list [.int 1, .null]), ("a", .str "x")]).dumps
    ⟨fun _ => "", fun _ => ""⟩ = "\x7b\"a\":\"x\",\"b\":[1,null]\x7d" := by decide +kernel

/-! ## Dicts without repeated keys -/

mutual

def wellFormed : Value → Bool
  | .list items => itemsWellFormed items
  | .dict entries => decide (entries.map (·.1)).Nodup && entriesWellFormed entries
  | _ => true

def itemsWellFormed : List Value → Bool
  | [] => true
  | v :: items => v.wellFormed && itemsWellFormed items

def entriesWellFormed : List (String × Value) → Bool
  | [] => true
  | (_, v) :: entries => v.wellFormed && entriesWellFormed entries

end

theorem wellFormed_of_lookup (formed : entriesWellFormed entries = true)
    (found : entries.lookup name = some v) : v.wellFormed = true := by
  induction entries with
  | nil => cases found
  | cons _ _ ih =>
    simp only [entriesWellFormed, Bool.and_eq_true] at formed
    rw [List.lookup_cons] at found
    split at found
    · cases found
      exact formed.1
    · exact ih formed.2 found

end Value

structure Dict where
  entries : List (String × Value)
  wellFormed : (Value.dict entries).wellFormed = true

theorem no_entries : (Value.dict []).wellFormed = true := rfl

namespace Dict

variable (d : Dict)

def get? (name : String) : Option Value := d.entries.lookup name

/-- `d.get(name, default)`. -/
def getD (name : String) (default : Value) : Value := (d.get? name).getD default

def keys : List String := d.entries.map (·.1)

def value : Value := .dict d.entries

theorem get?_isSome_iff : (d.get? name).isSome ↔ name ∈ d.keys := by
  rw [get?, keys, ← Option.ne_none_iff_isSome, Ne, List.lookup_eq_none_iff, List.mem_map]
  simp only [bne_iff_ne, ne_eq, not_forall, not_not, exists_prop]
  constructor
  · rintro ⟨entry, member, same⟩
    exact ⟨entry, member, same.symm⟩
  · rintro ⟨entry, member, same⟩
    exact ⟨entry, member, same.symm⟩

theorem mem_keys_of_getD {d : Dict} (found : d.getD name .null = v) (given : v ≠ .null) :
    name ∈ d.keys := by
  rw [← d.get?_isSome_iff]
  by_contra missing
  rw [Option.not_isSome_iff_eq_none] at missing
  rw [getD, missing] at found
  exact given found.symm

theorem keys_nodup {d : Dict} {entries : List (String × Value)}
    (found : d.get? name = some (.dict entries)) : (entries.map (·.1)).Nodup := by
  have formed := d.wellFormed
  simp only [Value.wellFormed, Bool.and_eq_true] at formed
  have inner := Value.wellFormed_of_lookup formed.2 found
  simp only [Value.wellFormed, Bool.and_eq_true, decide_eq_true_eq] at inner
  exact inner.1

end Dict

end PythonValue

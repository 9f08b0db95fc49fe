import CodestraMiddleware.Foundations.Raising
import CodestraMiddleware.Sales.Contracts
import Mathlib.Data.List.DropRight
import Mathlib.Data.List.Infix

/-!
# Normalised identifiers

`sales/normalization.py`. What Unicode, `urllib`, the IDNA codec, `phonenumbers` and `difflib`
compute is left open.
-/
namespace CodestraMiddleware.Sales

open Raising String

structure PhoneNumber where
  isValid : Bool
  e164 : String

structure Library where
  /-- `unicodedata.normalize("NFKC", text)`. -/
  (nfkc casefold lower : String → String)
  (isWord isSpace : Char → Bool)
  /-- `urlsplit(text).hostname`, or the text of the `ValueError`. -/
  hostname : String → Except String (Option String)
  /-- `text.encode("idna")`, or nothing for a `UnicodeError`. -/
  idna : String → Option String
  /-- `phonenumbers.parse`, or nothing for a `NumberParseException`. -/
  parsePhone : String → Option String → Option PhoneNumber
  /-- `int(SequenceMatcher(None, a, b).ratio() * 100)`. -/
  similarity : String → String → Nat

def truthy? (text : Option String) : Option String := text.filter (· ≠ "")

def legalSuffixes : List String :=
  ["co", "company", "corp", "corporation", "gmbh", "inc", "incorporated", "llc", "llp",
    "ltd", "limited", "plc", "sa", "sarl", "srl"]

def roleEmailLocals : List String :=
  ["admin", "contact", "hello", "info", "office", "sales", "support"]

def commonSecondLevelSuffixes : List String :=
  ["co.uk", "com.au", "com.br", "com.do", "com.mx", "co.nz", "co.za"]

namespace Library

variable (lib : Library)

def strip (text : String) : String :=
  ofList ((text.toList.dropWhile lib.isSpace).rdropWhile lib.isSpace)

def split (text : String) : List String :=
  ((text.toList.splitOnP lib.isSpace).filter (· ≠ [])).map ofList

variable (value : Option String)

def text : String :=
  let normalized := lib.casefold (lib.nfkc (value.getD ""))
  let spaced := normalized.toList.map fun c => if lib.isWord c || lib.isSpace c then c else ' '
  " ".intercalate (lib.split (ofList spaced))

def normalizedCompanyName (value : String) : String :=
  " ".intercalate ((lib.split (lib.text (some value))).rdropWhile (· ∈ legalSuffixes))

def normalizedPersonName : String := lib.text value

def normalizedAddressComponent : String := lib.text value

def normalizedDomain : Fallible (Option String) :=
  match truthy? value with
  | none => .ok none
  | some value => do
    let candidate := if "://".toList <:+: value.toList then value else "//" ++ value
    let host ← (lib.hostname candidate).mapError .valueError
    let host := (lib.lower (ofList ((host.getD "").toList.rdropWhile (· = '.')))).toList
    let host := if "www.".toList <+: host then host.drop 4 else host
    match lib.idna (ofList host) with
    | some encoded => .ok (truthy? (some encoded))
    | none => .error (.valueError "domain cannot be normalized with IDNA")

def registrableDomain : Fallible (Option String) := do
  match ← lib.normalizedDomain value with
  | none => return none
  | some host =>
    let labels := (host.toList.splitOn '.').map ofList
    let last (n : Nat) : String := ".".intercalate (labels.drop (labels.length - n))
    return some (if labels.length ≤ 2 then host
      else if last 2 ∈ commonSecondLevelSuffixes then last 3 else last 2)

def rpartitionAt (text : String) : Option (String × String) :=
  match text.toList.reverse.dropWhile (· ≠ '@') with
  | [] => none
  | _ :: before =>
    some (ofList before.reverse, ofList (text.toList.reverse.takeWhile (· ≠ '@')).reverse)

def normalizedEmail : Fallible (Option String) :=
  match truthy? value with
  | none => .ok none
  | some value =>
    match rpartitionAt (lib.strip value) with
    | none => .error (.valueError "email is malformed")
    | some (user, domain) => do
      check (user ≠ "" ∧ domain ≠ "") (.valueError "email is malformed")
      match ← lib.normalizedDomain (some domain) with
      | none => .error (.valueError "email domain is malformed")
      | some host => return some (lib.casefold (user ++ "@" ++ host))

def roleEmail : Fallible Bool := do
  match ← lib.normalizedEmail value with
  | none => return false
  | some normalized => return ofList (normalized.toList.takeWhile (· ≠ '@')) ∈ roleEmailLocals

def normalizedPhone (value countryCode : Option String) : Fallible (Option String) :=
  match truthy? value with
  | none => .ok none
  | some value =>
    match lib.parsePhone value countryCode with
    | none => .error (.valueError "telephone number is ambiguous or invalid")
    | some parsed => do
      check parsed.isValid (.valueError "telephone number is ambiguous or invalid")
      check ((value.toList.dropWhile lib.isSpace).head? = some '+' ∨ (truthy? countryCode).isSome)
        (.valueError "telephone country context is required")
      return some parsed.e164

end Library

end CodestraMiddleware.Sales

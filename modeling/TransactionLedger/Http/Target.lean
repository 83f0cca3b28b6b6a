import TransactionLedger.Text.Digits
import TransactionLedger.Text.Utf8

/-!
# Request targets

The path of a request target, and its segments. In a segment a percent sign with two hexadecimal
digits stands for a byte; a percent sign on its own stands for itself.
-/

namespace TransactionLedger.Http

/-- The characters of a scheme. -/
def isSchemeChar (c : Char) : Bool :=
  c.isAlphanum || c == '+' || c == '-' || c == '.'

/-- The characters at which the authority of a target ends. -/
def endsAuthority (c : Char) : Bool :=
  c == '/' || c == '?' || c == '#'

/-- A target without scheme and authority, which most targets lack anyway. -/
def withoutAuthority (target : List Char) : List Char :=
  match target.dropWhile isSchemeChar with
  | ':' :: '/' :: '/' :: rest =>
    match rest.dropWhile fun c => !endsAuthority c with
    | '/' :: path => '/' :: path
    | other => '/' :: other
  | _ => target

/-- The path of a target, without query and fragment. -/
def pathOf (target : String) : List Char :=
  (withoutAuthority target.toList).takeWhile fun c => c != '?' && c != '#'

/-- The byte that two hexadecimal digits denote. -/
def hexByte? (high low : UInt8) : Option UInt8 := do
  let high ← Text.hexValue? (Char.ofNat high.toNat)
  let low ← Text.hexValue? (Char.ofNat low.toNat)
  return UInt8.ofNat (16 * high + low)

/-- The bytes that percent signs stand for. -/
def percentDecoded : List UInt8 → List UInt8
  | percent :: high :: low :: rest =>
    if percent = '%'.toUInt8 then
      match hexByte? high low with
      | some byte => byte :: percentDecoded rest
      | none => percent :: percentDecoded (high :: low :: rest)
    else percent :: percentDecoded (high :: low :: rest)
  | short => short

/-- The text of a segment; nothing if its bytes spell none. -/
def segmentText? (segment : List Char) : Option String :=
  Text.utf8Text? (percentDecoded (Text.utf8Bytes (String.ofList segment)))

/-- The segments of a path behind each of its slashes; nothing if it does not start with one. -/
def segments? : List Char → Option (List (List Char))
  | [] => some []
  | c :: rest => if c = '/' then some (split rest) else none
where
  /-- Cuts at every slash. -/
  split : List Char → List (List Char)
    | [] => [[]]
    | c :: rest =>
      match split rest with
      | [] => [[c]]
      | first :: more => if c = '/' then [] :: first :: more else (c :: first) :: more

end TransactionLedger.Http

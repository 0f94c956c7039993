import CryptoUsb.Base64Text
import CryptoUsb.Errors
import CryptoUsb.IsoDateTime
import CryptoUsb.JsonText

/-!
# Fields of JSON objects

Reading typed fields out of a loaded JSON object the way the `from_dict`
methods do, and the values their `to_dict` counterparts write.  A field of
another JSON type than the record declares raises `TypeError` when it is read.
-/

namespace CryptoUsb

open ByteString JsonText IsoDateTime Base64Text

/-- The last member of that name: a repeated key overwrites the earlier one. -/
def memberLookup (key : String) : List (String × Json) → Option Json
  | [] => none
  | (name, value) :: members =>
      match memberLookup key members with
      | some later => some later
      | none => if name = key then some value else none

/-- `json.loads`. -/
def loadJson (text : String) : Raises Json :=
  match loads text with
  | none => raise .valueError "Expecting value"
  | some data => .ok data

/-- `data[key]`. -/
def getItem (data : Json) (key : String) : Raises Json :=
  match data with
  | .obj members =>
      match memberLookup key members with
      | some value => .ok value
      | none => raise .keyError key
  | _ => raise .typeError "indices must be integers or slices, not str"

/-- `data.get(key, default)`. -/
def getOr (data : Json) (key : String) (default : Json) : Raises Json :=
  match data with
  | .obj members => .ok ((memberLookup key members).getD default)
  | _ => raise .attributeError "object has no attribute 'get'"

/-- The truth value of a loaded JSON value. -/
def isTruthy : Json → Bool
  | .null => false
  | .bool value => value
  | .int value => value ≠ 0
  | .float _ => true
  | .str value => value ≠ ""
  | .arr items => !items.isEmpty
  | .obj members => !members.isEmpty

def asStr : Json → Raises String
  | .str value => .ok value
  | _ => raise .typeError "expected str"

def asInt : Json → Raises Int
  | .int value => .ok value
  | _ => raise .typeError "expected int"

/-- A count, where the record declares a number that is not negative. -/
def asNat (value : Json) : Raises Nat := do
  let number ← asInt value
  if number < 0 then raise .valueError "expected a number that is not negative"
  else return number.toNat

def asBool : Json → Raises Bool
  | .bool value => .ok value
  | _ => raise .typeError "expected bool"

/-- A finite float, kept by the text that it is written with. -/
structure PyFloat where
  literal : String
  readable : isFloatLiteral literal = true
  deriving DecidableEq, Repr

def PyFloat.zero : PyFloat :=
  ⟨"0.0", by decide⟩

def asFloat : Json → Raises PyFloat
  | .float literal =>
      if readable : isFloatLiteral literal = true then .ok ⟨literal, readable⟩
      else raise .typeError "expected a finite float"
  | _ => raise .typeError "expected float"

def asOptional {α : Type} (read : Json → Raises α) : Json → Raises (Option α)
  | .null => .ok none
  | value => do
      let result ← read value
      return some result

/-- `base64.b64decode` of a text value. -/
def asBase64 (value : Json) : Raises Bytes := do
  let text ← asStr value
  match b64decode text with
  | .ok bytes => .ok bytes
  | .error .notAscii => raise .valueError "string argument should contain only ASCII characters"
  | .error (.oneExtraCharacter count) =>
      raise .valueError s!"Invalid base64-encoded string: number of data characters ({count}) cannot be 1 more than a multiple of 4"
  | .error .incorrectPadding => raise .valueError "Incorrect padding"

/-- `datetime.fromisoformat` of a text value. -/
def asDateTime (value : Json) : Raises DateTime :=
  match value with
  | .str text =>
      match fromisoformat text with
      | some dateTime => .ok dateTime
      | none => raise .valueError s!"Invalid isoformat string: '{text}'"
  | _ => raise .typeError "fromisoformat: argument must be str"

/-- `fromisoformat(data[key]) if data.get(key) else None`. -/
def getDateTime (data : Json) (key : String) : Raises (Option DateTime) := do
  let value ← getOr data key .null
  if isTruthy value then do
    let dateTime ← asDateTime value
    return some dateTime
  else return none

def optStr : Option String → Json
  | none => .null
  | some value => .str value

def optInt : Option Int → Json
  | none => .null
  | some value => .int value

def optBool : Option Bool → Json
  | none => .null
  | some value => .bool value

def optFloat : Option PyFloat → Json
  | none => .null
  | some value => .float value.literal

def optBase64 : Option Bytes → Json
  | none => .null
  | some bytes => .str (b64encode bytes)

def optDateTime : Option DateTime → Json
  | none => .null
  | some dateTime => .str (isoformat dateTime)

/-! ## Reading what was written -/

@[simp]
theorem asStr_str (value : String) : asStr (.str value) = .ok value :=
  rfl

@[simp]
theorem asInt_int (value : Int) : asInt (.int value) = .ok value :=
  rfl

@[simp]
theorem asBool_bool (value : Bool) : asBool (.bool value) = .ok value :=
  rfl

@[simp]
theorem asOptional_asStr (value : Option String) : asOptional asStr (optStr value) = .ok value := by
  cases value <;> rfl

@[simp]
theorem asOptional_asInt (value : Option Int) : asOptional asInt (optInt value) = .ok value := by
  cases value <;> rfl

@[simp]
theorem asOptional_asBool (value : Option Bool) :
    asOptional asBool (optBool value) = .ok value := by
  cases value <;> rfl

@[simp]
theorem asOptional_asFloat (value : Option PyFloat) :
    asOptional asFloat (optFloat value) = .ok value := by
  cases value with
  | none => rfl
  | some value => simp [optFloat, asOptional, asFloat, value.readable, pure, Except.pure]

@[simp]
theorem asBase64_encode (bytes : Bytes) : asBase64 (.str (b64encode bytes)) = .ok bytes := by
  simp [asBase64]

@[simp]
theorem asNat_int (value : Nat) : asNat (.int value) = .ok value := by
  simp [asNat, pure, Except.pure]

@[simp]
theorem asOptional_asBase64 (value : Option Bytes) :
    asOptional asBase64 (optBase64 value) = .ok value := by
  cases value with
  | none => rfl
  | some bytes =>
      have read := asBase64_encode bytes
      simp [optBase64, asOptional, read, pure, Except.pure]

@[simp]
theorem asDateTime_isoformat (dateTime : DateTime) :
    asDateTime (.str (isoformat dateTime)) = .ok dateTime := by
  simp [asDateTime]

theorem isoformat_ne_empty (dateTime : DateTime) : isoformat dateTime ≠ "" := by
  intro empty
  have read := fromisoformat_isoformat dateTime
  have unread : fromisoformat "" = none := by decide
  rw [empty, unread] at read
  cases read

theorem getDateTime_optDateTime {data : Json} {key : String} {dateTime : Option DateTime}
    (field : getOr data key .null = .ok (optDateTime dateTime)) :
    getDateTime data key = .ok dateTime := by
  cases dateTime with
  | none => simp [getDateTime, field, optDateTime, isTruthy, pure, Except.pure]
  | some dateTime =>
      simp [getDateTime, field, optDateTime, isTruthy, isoformat_ne_empty, pure, Except.pure]

@[simp]
theorem floatFree_optStr (value : Option String) : FloatFree (optStr value) := by
  cases value <;> trivial

@[simp]
theorem floatFree_optInt (value : Option Int) : FloatFree (optInt value) := by
  cases value <;> trivial

@[simp]
theorem floatFree_optBase64 (value : Option Bytes) : FloatFree (optBase64 value) := by
  cases value <;> trivial

@[simp]
theorem floatFree_optDateTime (value : Option DateTime) : FloatFree (optDateTime value) := by
  cases value <;> trivial

/-! ## Objects with sorted keys -/

private theorem memberLookup_none {key : String} {members : List (String × Json)}
    (absent : key ∉ members.map Prod.fst) : memberLookup key members = none := by
  induction members with
  | nil => rfl
  | cons head members ih =>
      obtain ⟨name, value⟩ := head
      simp only [List.map_cons, List.mem_cons, not_or] at absent
      simp [memberLookup, ih absent.2, Ne.symm absent.1]

private theorem keys_insertMember (member : String × Json) (members : List (String × Json)) :
    ((insertMember member members).map Prod.fst).Perm (member.1 :: members.map Prod.fst) := by
  induction members with
  | nil => exact List.Perm.refl _
  | cons head members ih =>
      unfold insertMember
      split_ifs
      · exact (ih.cons _).trans (List.Perm.swap _ _ _)
      · exact List.Perm.refl _

private theorem memberLookup_insertMember {member : String × Json}
    {members : List (String × Json)} (fresh : member.1 ∉ members.map Prod.fst) (key : String) :
    memberLookup key (insertMember member members) =
      if member.1 = key then some member.2 else memberLookup key members := by
  induction members with
  | nil => simp [insertMember, memberLookup]
  | cons head members ih =>
      obtain ⟨name, value⟩ := head
      simp only [List.map_cons, List.mem_cons, not_or] at fresh
      unfold insertMember
      split_ifs with after same same
      · have later := ih fresh.2
        rw [if_pos same] at later
        simp [memberLookup, later]
      · have later := ih fresh.2
        rw [if_neg same] at later
        simp [memberLookup, later]
      · have absent : memberLookup key ((name, value) :: members) = none := by
          refine memberLookup_none ?_
          simp only [List.map_cons, List.mem_cons, not_or]
          exact ⟨fun equal => fresh.1 (same.trans equal), fun there => fresh.2 (same ▸ there)⟩
        rw [memberLookup, absent]
        simp [same]
      · rw [memberLookup]
        cases memberLookup key ((name, value) :: members) <;> simp [same]

private theorem keys_sortKeysMembers (members : List (String × Json)) :
    ((sortKeysMembers members).map Prod.fst).Perm (members.map Prod.fst) := by
  induction members with
  | nil => exact List.Perm.refl _
  | cons head members ih =>
      exact (keys_insertMember _ _).trans (ih.cons _)

/-- Sorting the keys of a flat object changes no lookup. -/
theorem memberLookup_sortKeysMembers {members : List (String × Json)}
    (distinct : (members.map Prod.fst).Nodup)
    (flat : ∀ member ∈ members, sortKeys member.2 = member.2) (key : String) :
    memberLookup key (sortKeysMembers members) = memberLookup key members := by
  induction members with
  | nil => rfl
  | cons head members ih =>
      obtain ⟨name, value⟩ := head
      obtain ⟨fresh, distinct⟩ := List.nodup_cons.mp distinct
      have later := ih distinct fun member there => flat member (List.mem_cons_of_mem _ there)
      have freshSorted : name ∉ (sortKeysMembers members).map Prod.fst :=
        fun there => fresh ((keys_sortKeysMembers members).mem_iff.mp there)
      rw [sortKeysMembers, memberLookup_insertMember freshSorted, later,
        flat (name, value) (by simp), memberLookup]
      by_cases same : name = key
      · subst same
        simp [memberLookup_none fresh]
      · cases memberLookup key members <;> simp [same]

end CryptoUsb

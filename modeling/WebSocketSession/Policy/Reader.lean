import WebSocketSession.Json.Skip
import WebSocketSession.Policy

/-!
# Policies and overrides as JSON

A policy or a set of overrides is an object of named fields, or a list of their values in a fixed
order. Reading goes from left to right and stops at the first fault. Unknown fields are skipped;
fields not given keep their defaults.
-/

set_option autoImplicit false
set_option relaxedAutoImplicit false

namespace WebSocketSession.PolicyReader

open WebSocketSession.Json

/-- What is wrong with a document, at the first place where something is. -/
inductive ReadError where
  | invalidType
  | invalidValue
  | unknownVariant
  | duplicateField
  | malformed
  deriving DecidableEq

def ReadError.label : ReadError → String
  | .invalidType => "invalid type"
  | .invalidValue => "invalid value"
  | .unknownVariant => "unknown variant"
  | .duplicateField => "duplicate field"
  | .malformed => "syntax"

inductive Form where
  | policy
  | overrides
  deriving DecidableEq

inductive Field where
  | role
  | bufferSize
  | maxText
  | maxBinary
  | maxIdleSeconds
  deriving DecidableEq

namespace Field

def name : Field → String
  | .role => "behavior"
  | .bufferSize => "buffer_size"
  | .maxText => "max_text_message_size"
  | .maxBinary => "max_binary_message_size"
  | .maxIdleSeconds => "max_idle_time"

def limits : List Field := [.bufferSize, .maxText, .maxBinary, .maxIdleSeconds]

def ofForm : Form → List Field
  | .policy => .role :: limits
  | .overrides => limits

def named? (form : Form) (name : String) : Option Field :=
  (ofForm form).find? fun field => field.name == name

end Field

/-- The fields given so far. A limit of overrides may be given as absent. -/
structure Draft where
  role : Option Role
  bufferSize : Option (Option Nat)
  maxText : Option (Option Nat)
  maxBinary : Option (Option Nat)
  maxIdleSeconds : Option (Option Nat)
  deriving DecidableEq

namespace Draft

def empty : Draft := ⟨none, none, none, none, none⟩

def has (draft : Draft) : Field → Bool
  | .role => draft.role.isSome
  | .bufferSize => draft.bufferSize.isSome
  | .maxText => draft.maxText.isSome
  | .maxBinary => draft.maxBinary.isSome
  | .maxIdleSeconds => draft.maxIdleSeconds.isSome

def withLimit (draft : Draft) (limit : Option Nat) : Field → Draft
  | .role => draft
  | .bufferSize => { draft with bufferSize := some limit }
  | .maxText => { draft with maxText := some limit }
  | .maxBinary => { draft with maxBinary := some limit }
  | .maxIdleSeconds => { draft with maxIdleSeconds := some limit }

def overrides (draft : Draft) : Overrides :=
  ⟨draft.bufferSize.join, draft.maxText.join, draft.maxBinary.join, draft.maxIdleSeconds.join⟩

/-- The policy that a draft gives, with defaults for the rest. -/
def policy (draft : Draft) : Policy where
  role := draft.role.getD Policy.default.role
  bufferSize := draft.bufferSize.join.getD Policy.default.bufferSize
  maxText := draft.maxText.join.getD Policy.default.maxText
  maxBinary := draft.maxBinary.join.getD Policy.default.maxBinary
  maxIdleSeconds := draft.maxIdleSeconds.join.getD Policy.default.maxIdleSeconds

end Draft

/-- The error at a token that is no start of what is wanted: a value of another type, unless
there is no value. -/
def mismatch : Token → ReadError
  | .null | .bool _ | .openBrace | .openBracket => .invalidType
  | .string (some _) => .invalidType
  | .number .unbounded => .malformed
  | .number _ => .invalidType
  | _ => .malformed

abbrev Read (α : Type) : Type := Except ReadError (α × List Token)

def readSize : List Token → Read Nat
  | .number (.size n) :: rest => .ok (n, rest)
  | .number .negative :: _ => .error .invalidValue
  | token :: _ => .error (mismatch token)
  | [] => .error .malformed

def readLimit (form : Form) (ts : List Token) : Read (Option Nat) :=
  match form, ts with
  | .overrides, .null :: rest => .ok (none, rest)
  | _, ts => (readSize ts).map fun (n, rest) => (some n, rest)

def roleNamed? : String → Option Role
  | "server" => some .server
  | "client" => some .client
  | _ => none

/-- The value that follows the name of a role in an object: an explicit nothing. -/
def readRoleContent (role : Role) : List Token → Read Role
  | .colon :: .null :: .closeBrace :: rest => .ok (role, rest)
  | .colon :: .null :: _ => .error .malformed
  | .colon :: token :: _ => .error (mismatch token)
  | _ => .error .malformed

def readRole : List Token → Read Role
  | .string (some name) :: rest =>
    match roleNamed? name with
    | some role => .ok (role, rest)
    | none => .error .unknownVariant
  | .openBrace :: .string (some name) :: rest =>
    match roleNamed? name with
    | some role => readRoleContent role rest
    | none => .error .unknownVariant
  | _ => .error .malformed

def readField (form : Form) (draft : Draft) (field : Field) (ts : List Token) : Read Draft :=
  match field with
  | .role => (readRole ts).map fun (role, rest) => ({ draft with role := some role }, rest)
  | field => (readLimit form ts).map fun (limit, rest) => (draft.withLimit limit field, rest)

/-- The value under a name: that of a field not given yet, or one to skip. -/
def readNamed (form : Form) (draft : Draft) (name : String) (ts : List Token) : Read Draft :=
  match Field.named? form name with
  | some field => if draft.has field then .error .duplicateField else
    match ts with
    | .colon :: rest => readField form draft field rest
    | _ => .error .malformed
  | none =>
    match ts with
    | .colon :: rest =>
      match skipValue rest with
      | some after => .ok (draft, after)
      | none => .error .malformed
    | _ => .error .malformed

private theorem length_readSize {ts : List Token} {found : Nat × List Token}
    (h : readSize ts = .ok found) : found.2.length < ts.length := by
  unfold readSize at h
  split at h <;> cases h
  simp

private theorem length_readLimit {form : Form} {ts : List Token}
    {found : Option Nat × List Token} (h : readLimit form ts = .ok found) :
    found.2.length < ts.length := by
  unfold readLimit at h
  split at h
  · cases h; simp
  · cases hs : readSize ts with
    | error e => rw [hs] at h; cases h
    | ok size => rw [hs] at h; cases h; exact length_readSize hs

private theorem length_readRole {ts : List Token} {found : Role × List Token}
    (h : readRole ts = .ok found) : found.2.length < ts.length := by
  unfold readRole at h
  split at h
  · split at h <;> cases h
    simp
  · split at h
    · unfold readRoleContent at h
      split at h <;> cases h
      simp only [List.length_cons]
      omega
    · cases h
  · cases h

private theorem length_readField {form : Form} {draft : Draft} {field : Field}
    {ts : List Token} {found : Draft × List Token}
    (h : readField form draft field ts = .ok found) : found.2.length < ts.length := by
  unfold readField at h
  split at h
  · cases hr : readRole ts with
    | error e => rw [hr] at h; cases h
    | ok role => rw [hr] at h; cases h; exact length_readRole hr
  · cases hl : readLimit form ts with
    | error e => rw [hl] at h; cases h
    | ok limit => rw [hl] at h; cases h; exact length_readLimit hl

private theorem length_readNamed {form : Form} {draft : Draft} {name : String}
    {ts : List Token} {found : Draft × List Token}
    (h : readNamed form draft name ts = .ok found) : found.2.length < ts.length := by
  unfold readNamed at h
  split at h
  · split at h
    · cases h
    · split at h
      · exact Nat.lt_succ_of_lt (length_readField h)
      · cases h
  · split at h
    · split at h
      · rename_i hs
        cases h
        exact Nat.lt_succ_of_lt (length_skipValue hs)
      · cases h
    · cases h

/-- Names and values up to the closing brace; `first` is before any of them. -/
def readFields (form : Form) (first : Bool) (draft : Draft) (ts : List Token) : Read Draft :=
  match first, ts with
  | _, .closeBrace :: rest => .ok (draft, rest)
  | true, .string (some name) :: rest =>
    match _h : readNamed form draft name rest with
    | .ok (extended, after) => readFields form false extended after
    | .error e => .error e
  | false, .comma :: .string (some name) :: rest =>
    match _h : readNamed form draft name rest with
    | .ok (extended, after) => readFields form false extended after
    | .error e => .error e
  | _, _ => .error .malformed
termination_by ts.length
decreasing_by
  · exact Nat.lt_succ_of_lt (length_readNamed _h)
  · exact Nat.lt_succ_of_lt (Nat.lt_succ_of_lt (length_readNamed _h))

def readListEnd (draft : Draft) : List Token → Read Draft
  | .closeBracket :: rest => .ok (draft, rest)
  | _ => .error .malformed

/-- Values in the order of their fields up to the closing bracket; a short list gives fewer. -/
def readItems (form : Form) (first : Bool) (draft : Draft) : List Field → List Token → Read Draft
  | [], ts => readListEnd draft ts
  | field :: fields, ts =>
    match first, ts with
    | _, .closeBracket :: rest => .ok (draft, rest)
    | true, ts =>
      match readField form draft field ts with
      | .ok (extended, rest) => readItems form false extended fields rest
      | .error e => .error e
    | false, .comma :: rest =>
      match readField form draft field rest with
      | .ok (extended, after) => readItems form false extended fields after
      | .error e => .error e
    | false, _ => .error .malformed

def readBody (form : Form) : List Token → Read Draft
  | .openBrace :: ts => readFields form true .empty ts
  | .openBracket :: ts => readItems form true .empty (Field.ofForm form) ts
  | token :: _ => .error (mismatch token)
  | [] => .error .malformed

def readDraft (form : Form) (text : String) : Except ReadError Draft :=
  match readBody form (tokens text.toList) with
  | .ok (draft, []) => .ok draft
  | .ok _ => .error .malformed
  | .error e => .error e

def readPolicy (text : String) : Except ReadError Policy :=
  (readDraft .policy text).map Draft.policy

def readOverrides (text : String) : Except ReadError Overrides :=
  (readDraft .overrides text).map Draft.overrides

end WebSocketSession.PolicyReader

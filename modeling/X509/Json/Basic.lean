/-
**JSON values.**

The types of this library have a JSON form: records are objects with a member for each field,
alternatives are objects with one member named for the alternative. This module holds the values
and the readers that all of those forms share.

* `Json.list?_list` — what is written item by item reads back item by item.
* `Json.fields?_object` — the fields of a record are the members that were written for them.
-/

import X509.Octets

namespace X509

/-- A JSON value. A number is `mantissa · 10 ^ -places`; it is an integer when `places` is zero. -/
inductive Json where
  | null
  | bool (value : Bool)
  | number (mantissa : Int) (places : Nat)
  | string (text : String)
  | array (items : List Json)
  | object (members : List (String × Json))
deriving Inhabited

namespace Json

/-! ### Writing -/

/-- An integer. -/
def int (value : Int) : Json :=
  .number value 0

/-- A natural number. -/
def nat (value : Nat) : Json :=
  .number value 0

/-- The octets as an array of numbers. -/
def octets (octets : Octets) : Json :=
  .array (octets.map fun octet => nat octet.toNat)

/-- The form of the value, or `null` when it is absent. -/
def option {α : Type} (toJson : α → Json) : Option α → Json
  | none => .null
  | some value => toJson value

/-- The forms of the values, in order. -/
def list {α : Type} (toJson : α → Json) (values : List α) : Json :=
  .array (values.map toJson)

/-- An alternative: its name and the form of what it holds. -/
def alternative (name : String) (content : Json) : Json :=
  .object [(name, content)]

/-! ### Reading -/

/-- The truth value. -/
def bool? : Json → Option Bool
  | .bool value => some value
  | _ => none

/-- The text. -/
def string? : Json → Option String
  | .string text => some text
  | _ => none

/-- The natural number below `bound`. -/
def natBelow? (bound : Nat) : Json → Option Nat
  | .number (.ofNat value) 0 => if value < bound then some value else none
  | _ => none

/-- The items of the array, each read by `read?`. -/
def list? {α : Type} (read? : Json → Option α) : Json → Option (List α)
  | .array items => items.mapM read?
  | _ => none

/-- The octets of an array of numbers. -/
def octets? (json : Json) : Option Octets :=
  list? (fun item => (item.natBelow? 256).map UInt8.ofNat) json

/-- `none` for `null`, and otherwise what `read?` makes of the value. -/
def option? {α : Type} (read? : Json → Option α) : Json → Option (Option α)
  | .null => some none
  | json => (read? json).map some

/-- The member of an object with this name. -/
def member? (name : String) (members : List (String × Json)) : Option Json :=
  (members.find? (·.1 == name)).map Prod.snd

/-- The fields of a record: the members of an object by name, where a missing field is `none`, or
the items of an array that has exactly one for each field. -/
def fields? (names : List String) : Json → Option (List (Option Json))
  | .object members => some (names.map fun name => member? name members)
  | .array items => if items.length = names.length then some (items.map some) else none
  | _ => none

/-- The only field of a record with one field. -/
def field1? (name : String) (json : Json) : Option (Option Json) :=
  match json.fields? [name] with
  | some [only] => some only
  | _ => none

/-- The fields of a record with two fields. -/
def fields2? (first second : String) (json : Json) : Option (Option Json × Option Json) :=
  match json.fields? [first, second] with
  | some [one, two] => some (one, two)
  | _ => none

/-- The fields of a record with three fields. -/
def fields3? (first second third : String) (json : Json) :
    Option (Option Json × Option Json × Option Json) :=
  match json.fields? [first, second, third] with
  | some [one, two, three] => some (one, two, three)
  | _ => none

/-- What `read?` makes of a field that must be there. -/
def required? {α : Type} (read? : Json → Option α) (field : Option Json) : Option α :=
  field.bind read?

/-- What `read?` makes of a field that may be missing or `null`. -/
def optional? {α : Type} (read? : Json → Option α) : Option Json → Option (Option α)
  | none => some none
  | some json => json.option? read?

/-- The name and the content of an alternative. -/
def alternative? : Json → Option (String × Json)
  | .object [(name, content)] => some (name, content)
  | _ => none

/-! ### What was written reads back -/

section ReadsBack

variable {α β : Type} {toJson : α → Json}

theorem option?_option_map {read? : Json → Option β} {f : α → β} {value : Option α}
    (reads : ∀ present ∈ value, read? (toJson present) = some (f present))
    (filled : ∀ present, toJson present ≠ .null) :
    option? read? (option toJson value) = some (value.map f) := by
  cases value with
  | none => rfl
  | some value =>
    have content := reads value rfl
    rw [option, option?, content]
    · rfl
    · exact filled value

theorem list?_list_map {read? : Json → Option β} {f : α → β} {values : List α}
    (reads : ∀ value ∈ values, read? (toJson value) = some (f value)) :
    list? read? (list toJson values) = some (values.map f) := by
  simp only [list?, list]
  induction values with
  | nil => rfl
  | cons value values ih =>
    obtain ⟨first, others⟩ := List.forall_mem_cons.1 reads
    rw [List.map_cons, List.mapM_cons, first, ih others]
    rfl

variable {read? : Json → Option α}

theorem option?_option (reads : ∀ value, read? (toJson value) = some value)
    (filled : ∀ value, toJson value ≠ .null) (value : Option α) :
    option? read? (option toJson value) = some value := by
  rw [option?_option_map (fun present _ => reads present) filled, Option.map_id']

theorem list?_list (reads : ∀ value, read? (toJson value) = some value) (values : List α) :
    list? read? (list toJson values) = some values := by
  rw [list?_list_map fun value _ => reads value, List.map_id']

theorem natBelow?_nat {bound value : Nat} (below : value < bound) :
    natBelow? bound (nat value) = some value :=
  if_pos below

theorem octets?_octets (written : Octets) : octets? (octets written) = some written := by
  refine list?_list (fun octet => ?_) written
  rw [natBelow?_nat octet.toNat_lt]
  exact congrArg some UInt8.ofNat_toNat

/-- A member of an object is found by its name, if the names differ. -/
theorem member?_of_mem {members : List (String × Json)} (distinct : (members.map Prod.fst).Nodup)
    {member : String × Json} (inside : member ∈ members) :
    member? member.1 members = some member.2 := by
  induction members with
  | nil => cases inside
  | cons first rest ih =>
    obtain ⟨fresh, distinct⟩ := List.nodup_cons.1 distinct
    rcases List.mem_cons.1 inside with rfl | inside
    · simp [member?]
    · have differs : first.1 ≠ member.1 := by
        intro same
        exact fresh (same ▸ List.mem_map_of_mem inside)
      rw [← ih distinct inside, member?, List.find?_cons_of_neg (by simpa using differs), member?]

/-- **The fields of a record are the members that were written for them.** -/
theorem fields?_object {members : List (String × Json)}
    (distinct : (members.map Prod.fst).Nodup) :
    (object members).fields? (members.map Prod.fst) =
      some (members.map fun member => some member.2) := by
  rw [fields?, List.map_map]
  exact congrArg some (List.map_congr_left fun member inside => member?_of_mem distinct inside)

theorem field1?_object (name : String) (only : Json) :
    (object [(name, only)]).field1? name = some (some only) := by
  have fields : (object [(name, only)]).fields? [name] = some [some only] :=
    fields?_object (List.pairwise_singleton _ name)
  rw [field1?, fields]

theorem fields2?_object {first second : String} (distinct : [first, second].Nodup)
    (one two : Json) :
    (object [(first, one), (second, two)]).fields2? first second = some (some one, some two) := by
  have fields : (object [(first, one), (second, two)]).fields? [first, second] =
      some [some one, some two] := fields?_object distinct
  rw [fields2?, fields]

theorem fields3?_object {first second third : String} (distinct : [first, second, third].Nodup)
    (one two three : Json) :
    (object [(first, one), (second, two), (third, three)]).fields3? first second third =
      some (some one, some two, some three) := by
  have fields : (object [(first, one), (second, two), (third, three)]).fields?
      [first, second, third] = some [some one, some two, some three] := fields?_object distinct
  rw [fields3?, fields]

end ReadsBack

end Json

end X509

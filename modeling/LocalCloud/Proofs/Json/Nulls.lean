import LocalCloud.Json.Decode
import Mathlib.Tactic.Common

/-!
# Fields that are null and fields that are missing

Some fields of a record may be null, and null is to be read like no field at all.  A
`Shape` tells which fields these are and where further records lie inside.  A document is
edited along its shape: at chosen places the fields that may be null are set to null or
are removed.  Of a field the two editions of a record hold one of three pairs, and the ways
in which fields are read are blind to the difference of each pair, so records are, and
lists of them, at any depth.
-/

namespace LocalCloud.Json

/-- A step into a document. -/
inductive Step where
  | field (name : String)
  | item (index : Nat)
deriving DecidableEq

/-- A place in a document, from the outside in. -/
abbrev Place := List Step

/-- Where in a document fields may be null: the fields of a record that may be, and the
shapes inside. -/
inductive Shape where
  | plain
  | list (item : Shape)
  | record (nullable : List String) (inside : String → Shape)

/-- The fields of an object after a change to what stands under their names; those that
are left with nothing are removed. -/
def changeFields (change : String → Node → Option Node) :
    List (Option String × Node) → List (Option String × Node)
  | [] => []
  | (none, node) :: rest => (none, node) :: changeFields change rest
  | (some name, node) :: rest =>
    match change name node with
    | none => changeFields change rest
    | some changed => (some name, changed) :: changeFields change rest

namespace Shape

/-- A document in which fields are edited: those that may be null and are chosen by their
places are set to a value or, without one, removed. -/
def edit (instead : Option Node) : Shape → (Place → Bool) → Node → Node
  | .list item, chosen, .array items =>
    .array (items.mapIdx fun index node =>
      item.edit instead (fun place => chosen (.item index :: place)) node)
  | .record nullable inside, chosen, .object fields =>
    .object (changeFields (fun name node =>
      if name ∈ nullable ∧ chosen [.field name] = true then instead
      else some ((inside name).edit instead (fun place => chosen (.field name :: place)) node))
      fields)
  | _, _, node => node

/-- The document with the chosen fields null. -/
def nulled (shape : Shape) (chosen : Place → Bool) (node : Node) : Node :=
  shape.edit (some .null) chosen node

/-- The document without the chosen fields. -/
def without (shape : Shape) (chosen : Place → Bool) (node : Node) : Node :=
  shape.edit none chosen node

/-- Records are not given as arrays, and no key occurs twice in them. -/
def Admits : Shape → Node → Prop
  | .list item, .array items => ∀ node ∈ items, item.Admits node
  | .record _ _, .array _ => False
  | .record _ inside, .object fields =>
    (fields.filterMap (·.1)).Nodup ∧
      ∀ field ∈ fields, ∀ name ∈ field.1, (inside name).Admits field.2
  | _, _ => True

/-- Null is read like a missing field, wherever a field may be null. -/
def ReadsNullAsMissing {α : Type} (shape : Shape) (decode : Decoder α) : Prop :=
  ∀ chosen node, shape.Admits node →
    decode (shape.nulled chosen node) = decode (shape.without chosen node)

end Shape

section Fields

open Decode (uniqueField record)

variable {change : String → Node → Option Node} {fields : List (Option String × Node)}
  {name : String}

/-- The first field of a name. -/
def lookup (fields : List (Option String × Node)) (name : String) : Option Node :=
  (fields.find? fun field => field.1 == some name).map (·.2)

theorem mem_of_lookup {node : Node} (h : lookup fields name = some node) :
    (some name, node) ∈ fields := by
  obtain ⟨field, hfield, rfl⟩ := Option.map_eq_some_iff.1 h
  have hname := List.find?_some hfield
  rw [beq_iff_eq] at hname
  rw [← hname]
  exact List.mem_of_find?_eq_some hfield

theorem lookup_of_not_mem (h : name ∉ fields.filterMap (·.1)) : lookup fields name = none := by
  rw [Option.eq_none_iff_forall_ne_some]
  intro node hnode
  exact h (List.mem_filterMap.2 ⟨_, mem_of_lookup hnode, rfl⟩)

theorem lookup_cons_of_ne {key : Option String} (h : key ≠ some name) (node : Node) :
    lookup ((key, node) :: fields) name = lookup fields name := by
  rw [lookup, List.find?_cons_of_neg (by simpa using h), lookup]

theorem lookup_cons_self (node : Node) :
    lookup ((some name, node) :: fields) name = some node := by
  rw [lookup, List.find?_cons_of_pos (by simp)]
  rfl

/-- The keys behind the first field. -/
theorem nodup_of_cons {key : Option String} {node : Node}
    (h : (((key, node) :: fields).filterMap (·.1)).Nodup) :
    (fields.filterMap (·.1)).Nodup ∧ ∀ name ∈ key, name ∉ fields.filterMap (·.1) := by
  cases key with
  | none => exact ⟨h, nofun⟩
  | some name =>
      obtain ⟨hname, hrest⟩ := List.nodup_cons.1 h
      refine ⟨hrest, ?_⟩
      rintro _ ⟨⟩
      exact hname

/-- Without keys that occur twice there is one field of a name or none. -/
theorem uniqueField_eq (h : (fields.filterMap (·.1)).Nodup) (name : String) :
    uniqueField fields name = some (lookup fields name) := by
  induction fields with
  | nil => rfl
  | cons field fields ih =>
      obtain ⟨key, node⟩ := field
      obtain ⟨hrest, hkeys⟩ := nodup_of_cons h
      by_cases hkey : key = some name
      · have hnone : fields.filter (fun field => field.1 == some name) = [] := by
          rw [List.filter_eq_nil_iff]
          intro field hfield hname
          rw [beq_iff_eq] at hname
          exact hkeys name hkey (List.mem_filterMap.2 ⟨field, hfield, hname⟩)
        rw [hkey, lookup_cons_self, uniqueField, List.filter_cons_of_pos (by simp), hnone]
      · rw [lookup_cons_of_ne hkey, ← ih hrest, uniqueField,
          List.filter_cons_of_neg (by simpa using hkey), uniqueField]

theorem keys_changeFields (change : String → Node → Option Node)
    (fields : List (Option String × Node)) :
    ((changeFields change fields).filterMap (·.1)).Sublist (fields.filterMap (·.1)) := by
  fun_induction changeFields change fields with
  | case1 => exact .slnil
  | case2 node rest ih => exact ih
  | case3 name node rest hnone ih => exact ih.cons name
  | case4 name node rest changed hchanged ih => exact ih.cons_cons name

theorem all_changeFields (change : String → Node → Option Node)
    (fields : List (Option String × Node)) :
    (changeFields change fields).all (fun field => field.1.isSome) =
      fields.all fun field => field.1.isSome := by
  fun_induction changeFields change fields with
  | case1 | case2 => rfl
  | case3 name node rest hnone ih => exact ih
  | case4 name node rest changed hchanged ih => exact ih

theorem lookup_changeFields (h : (fields.filterMap (·.1)).Nodup) (name : String) :
    lookup (changeFields change fields) name = (lookup fields name).bind (change name) := by
  fun_induction changeFields change fields with
  | case1 => rfl
  | case2 node rest ih =>
      obtain ⟨hrest, -⟩ := nodup_of_cons h
      have hkey : none ≠ some name := (Option.some_ne_none name).symm
      rw [lookup_cons_of_ne hkey, lookup_cons_of_ne hkey, ih hrest]
  | case3 other node rest hnone ih =>
      obtain ⟨hrest, hkeys⟩ := nodup_of_cons h
      by_cases hname : other = name
      · subst hname
        rw [ih hrest, lookup_of_not_mem (hkeys other rfl), lookup_cons_self, Option.bind_some,
          hnone, Option.bind_none]
      · rw [ih hrest, lookup_cons_of_ne (by simpa using hname)]
  | case4 other node rest changed hchanged ih =>
      obtain ⟨hrest, -⟩ := nodup_of_cons h
      by_cases hname : other = name
      · subst hname
        rw [lookup_cons_self, lookup_cons_self, Option.bind_some, hchanged]
      · have hkey : some other ≠ some name := by simpa using hname
        rw [lookup_cons_of_ne hkey, lookup_cons_of_ne hkey, ih hrest]

/-- The fields of a record after a change, if its keys are readable at all. -/
theorem record_changeFields (h : (fields.filterMap (·.1)).Nodup) (names : List String) :
    record names (.object (changeFields change fields)) =
      if fields.all (fun field => field.1.isSome) then
        some (names.map fun name => (lookup fields name).bind (change name))
      else none := by
  have hunique : uniqueField (changeFields change fields) =
      fun name => pure ((lookup fields name).bind (change name)) := by
    funext name
    rw [uniqueField_eq (h.sublist (keys_changeFields change fields)), lookup_changeFields h]
    rfl
  rw [record, all_changeFields, hunique, List.mapM_pure]
  rfl

end Fields

namespace Shape

variable {α β : Type} {shape item : Shape} {decode : Decoder α} {nullable : List String}
  {inside : String → Shape}

/-- What the edition with nulls and the one without them hold for a field of a record:
neither anything, only the first a null, or both the same but for the fields inside. -/
inductive Holds (nullable : List String) (inside : String → Shape) (name : String) :
    Option Node → Option Node → Prop where
  | missing : Holds nullable inside name none none
  | chosen (h : name ∈ nullable) : Holds nullable inside name (some .null) none
  | kept (chosen : Place → Bool) {node : Node} (h : (inside name).Admits node) :
      Holds nullable inside name (some ((inside name).nulled chosen node))
        (some ((inside name).without chosen node))

/-- Inside of plain values nothing is edited. -/
theorem ReadsNullAsMissing.plain : Shape.plain.ReadsNullAsMissing decode :=
  fun _ _ _ => rfl

/-- Editing goes on inside of values and never makes or unmakes a null. -/
theorem edit_eq_null_iff (instead : Option Node) (shape : Shape) (chosen : Place → Bool)
    (node : Node) : shape.edit instead chosen node = .null ↔ node = .null := by
  cases shape <;> cases node <;> simp [edit]

/-- Reading that lets null stand for something is as blind as the reading of the rest. -/
theorem ReadsNullAsMissing.of_null {decodeNull : Decoder β} (h : shape.ReadsNullAsMissing decode)
    {next : Option α → Option β} (hrest : ∀ node ≠ .null, decodeNull node = next (decode node)) :
    shape.ReadsNullAsMissing decodeNull := by
  intro chosen node hnode
  by_cases hnull : node = .null
  · rw [nulled, without, (edit_eq_null_iff _ _ _ _).2 hnull, (edit_eq_null_iff _ _ _ _).2 hnull]
  · have hnulled : shape.nulled chosen node ≠ .null := mt (edit_eq_null_iff _ _ _ _).1 hnull
    have hwithout : shape.without chosen node ≠ .null := mt (edit_eq_null_iff _ _ _ _).1 hnull
    rw [hrest _ hnulled, hrest _ hwithout, h chosen node hnode]

theorem ReadsNullAsMissing.list (h : item.ReadsNullAsMissing decode) :
    (Shape.list item).ReadsNullAsMissing (Decode.list decode) := by
  intro chosen node hnode
  cases node with
  | array items =>
      have hitems (chosen : Nat → Place → Bool) (hadmits : ∀ node ∈ items, item.Admits node) :
          (items.mapIdx fun index node => item.nulled (chosen index) node).mapM decode =
            (items.mapIdx fun index node => item.without (chosen index) node).mapM decode := by
        induction items generalizing chosen with
        | nil => rfl
        | cons node items ih =>
            obtain ⟨hfirst, hrest⟩ := List.forall_mem_cons.1 hadmits
            rw [List.mapIdx_cons, List.mapIdx_cons, List.mapM_cons, List.mapM_cons,
              h (chosen 0) node hfirst, ih hrest (fun index => chosen (index + 1)) hrest]
      exact hitems (fun index place => chosen (.item index :: place)) hnode
  | _ => rfl

section Record

variable {name : String} {names : List String} {first second : Option Node} {fallback : α}

theorem Holds.required (h : Holds nullable inside name first second) (hname : name ∉ nullable)
    (hread : (inside name).ReadsNullAsMissing decode) :
    Decode.required decode first = Decode.required decode second := by
  cases h with
  | missing => rfl
  | chosen hchosen => exact absurd hchosen hname
  | kept chosen hnode => exact hread chosen _ hnode

theorem Holds.defaulted (h : Holds nullable inside name first second) (hname : name ∉ nullable)
    (hread : (inside name).ReadsNullAsMissing decode) :
    Decode.defaulted fallback decode first = Decode.defaulted fallback decode second := by
  cases h with
  | missing => rfl
  | chosen hchosen => exact absurd hchosen hname
  | kept chosen hnode => exact hread chosen _ hnode

/-- A field is read as its default both when it is null and when it is missing. -/
theorem Holds.defaulted_of_null (h : Holds nullable inside name first second)
    (hnull : decode .null = some fallback) (hread : (inside name).ReadsNullAsMissing decode) :
    Decode.defaulted fallback decode first = Decode.defaulted fallback decode second := by
  cases h with
  | missing => rfl
  | chosen hchosen => exact hnull
  | kept chosen hnode => exact hread chosen _ hnode

theorem Holds.nullDefault (h : Holds nullable inside name first second)
    (hread : (inside name).ReadsNullAsMissing decode) :
    Decode.nullDefault fallback decode first = Decode.nullDefault fallback decode second := by
  have hnull : Decode.nullAs fallback decode .null = some fallback := rfl
  have hrest (node : Node) (hnode : node ≠ .null) :
      Decode.nullAs fallback decode node = id (decode node) := by
    rw [Decode.nullAs]
    · rfl
    · exact hnode
  exact h.defaulted_of_null hnull (hread.of_null hrest)

theorem Holds.optional (h : Holds nullable inside name first second)
    (hread : (inside name).ReadsNullAsMissing decode) :
    Decode.optional decode first = Decode.optional decode second := by
  have hnull : Decode.nullable decode .null = some none := rfl
  have hrest (node : Node) (hnode : node ≠ .null) :
      Decode.nullable decode node = (decode node).map some := by
    rw [Decode.nullable]
    exact hnode
  exact h.defaulted_of_null hnull (hread.of_null hrest)

/-- Records are read alike if they are built alike from what their two editions hold. -/
theorem readsNullAsMissing_record {build : List (Option Node) → Option α}
    (h : ∀ first second : String → Option Node,
      (∀ name, Holds nullable inside name (first name) (second name)) →
        build (names.map first) = build (names.map second)) :
    (Shape.record nullable inside).ReadsNullAsMissing
      fun node => Decode.record names node >>= build := by
  intro chosen node hnode
  cases node with
  | object fields =>
      obtain ⟨hkeys, hfields⟩ := hnode
      dsimp only [nulled, without]
      rw [edit, edit, record_changeFields hkeys, record_changeFields hkeys]
      split
      · apply h
        intro name
        cases hlookup : lookup fields name with
        | none => exact .missing
        | some node =>
            have hadmits := hfields _ (mem_of_lookup hlookup) name rfl
            rw [Option.bind_some, Option.bind_some]
            split
            next hchosen => exact .chosen hchosen.1
            next => exact .kept _ hadmits
      · rfl
  | array items => exact hnode.elim
  | _ => rfl

end Record

end Shape

end LocalCloud.Json

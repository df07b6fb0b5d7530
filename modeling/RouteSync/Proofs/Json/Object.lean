import Mathlib.Data.List.Nodup
import Mathlib.Data.List.Perm.Subperm
import RouteSync.Json.Writer
import RouteSync.Proofs.Json.Text
import RouteSync.Proofs.Text.Split

/-! Compact objects read back as records: in any order of their members, and without those that may
be left out. -/
namespace RouteSync.Json

open Decode

/-! ### Objects and what may stand in them -/

/-- What an object holds under a name. -/
structure Part where
  name : String
  /-- How the value is written; null may stand for one that is absent. -/
  text? : Option String
  /-- Whether leaving it out would say something else. -/
  needed : Bool
  isSome_of_needed : needed → text?.isSome

namespace Part

def value (name text : String) (needed : Bool) : Part := ⟨name, some text, needed, fun _ => rfl⟩

def optional (name : String) (text? : Option String) : Part := ⟨name, text?, text?.isSome, id⟩

def text (p : Part) : String := p.text?.getD "null"

/-- The member of the compact form, which has no nulls. -/
def member (p : Part) : Member := (p.name, p.text?)

variable (name word : String) (needed : Bool) (text? : Option String)

@[simp] theorem name_value : (value name word needed).name = name := rfl

@[simp] theorem needed_value : (value name word needed).needed = needed := rfl

@[simp] theorem name_optional : (optional name text?).name = name := rfl

@[simp] theorem needed_optional : (optional name text?).needed = text?.isSome := rfl

end Part

/-- Members under names of their own, in any order, that leave out nothing that is needed. -/
structure Spells (parts : List Part) (ms : List Member) : Prop where
  once : (ms.map Prod.fst).Nodup
  own : ∀ m ∈ ms, ∀ text ∈ m.2, ∃ part ∈ parts, part.name = m.1 ∧ part.text = text
  needed : ∀ part ∈ parts, part.needed → (part.name, some part.text) ∈ ms

/-- The compact form is a spelling. -/
theorem spells_members {parts : List Part} (h : (parts.map Part.name).Nodup) :
    Spells parts (parts.map Part.member) where
  once := by
    rw [List.map_map]
    exact h
  own m hm text htext := by
    obtain ⟨part, hpart, rfl⟩ := List.mem_map.1 hm
    have hvalue : part.text? = some text := htext
    exact ⟨part, hpart, rfl, by rw [Part.text, hvalue, Option.getD_some]⟩
  needed part hpart hneeded := by
    obtain ⟨text, htext⟩ := Option.isSome_iff_exists.1 (part.isSome_of_needed hneeded)
    refine List.mem_map.2 ⟨part, hpart, ?_⟩
    rw [Part.member, Part.text, htext, Option.getD_some]

/-- The members that are written. -/
def given (ms : List Member) : List (String × String) :=
  ms.filterMap fun m => m.2.map fun text => (m.1, text)

theorem mem_given {ms : List Member} {p : String × String} :
    p ∈ given ms ↔ (p.1, some p.2) ∈ ms := by
  obtain ⟨name, text⟩ := p
  simp only [given, List.mem_filterMap, Option.map_eq_some_iff, Prod.mk.injEq]
  constructor
  · rintro ⟨⟨name', value⟩, hm, text', rfl, rfl, rfl⟩
    exact hm
  · intro hm
    exact ⟨_, hm, text, rfl, rfl, rfl⟩

theorem nodup_given {ms : List Member} (h : (ms.map Prod.fst).Nodup) :
    ((given ms).map Prod.fst).Nodup := by
  induction ms with
  | nil => exact .nil
  | cons m ms ih =>
    obtain ⟨name, value⟩ := m
    obtain ⟨hname, hms⟩ := List.nodup_cons.1 h
    cases value with
    | none => exact ih hms
    | some text =>
      have hnew : name ∉ (given ms).map Prod.fst := by
        intro hmem
        obtain ⟨p, hp, rfl⟩ := List.mem_map.1 hmem
        exact hname (List.mem_map.2 ⟨_, mem_given.1 hp, rfl⟩)
      exact List.nodup_cons.2 ⟨hnew, ih hms⟩

def pairText (p : String × String) : List Char := (quote p.1).toList ++ ':' :: p.2.toList

theorem exists_pairText (p : String × String) : ∃ cs, pairText p = '"' :: cs := by
  rw [pairText, toList_quote]
  exact ⟨_, rfl⟩

/-- An object after its opening brace, or after a member. -/
def bodyText (first : Bool) : List (String × String) → List Char
  | [] => ['\x7d']
  | p :: ps => (if first then [] else [',']) ++ (pairText p ++ bodyText false ps)

theorem bodyText_false (ps : List (String × String)) :
    bodyText false ps = (ps.map pairText).flatMap (',' :: ·) ++ ['\x7d'] := by
  induction ps with
  | nil => rfl
  | cons p ps ih => simp [bodyText, ih]

theorem toList_objectText (ms : List Member) :
    (objectText ms).toList = '\x7b' :: bodyText true (given ms) := by
  have hpairs : (ms.filterMap Member.text?).map String.toList = (given ms).map pairText := by
    simp [given, List.map_filterMap, Member.text?, pairText, Function.comp_def]
  have hbody : [','].intercalate ((given ms).map pairText) ++ ['\x7d'] =
      bodyText true (given ms) := by
    cases given ms with
    | nil => rfl
    | cons p ps => simp [Text.intercalate_cons, bodyText, bodyText_false]
  rw [← hbody, ← hpairs, objectText]
  simp [String.toList_intercalate]

theorem length_lt_bodyText (first : Bool) (ps : List (String × String)) :
    ps.length < (bodyText first ps).length := by
  induction ps generalizing first with
  | nil => exact Nat.one_pos
  | cons p ps ih =>
    have hps := ih false
    obtain ⟨cs, hpair⟩ := exists_pairText p
    rw [bodyText, hpair]
    simp only [List.length_append, List.length_cons]
    omega

theorem length_given_lt (ms : List Member) :
    (given ms).length + 1 < (objectText ms).toList.length := by
  have hbody := length_lt_bodyText true (given ms)
  rw [toList_objectText, List.length_cons]
  omega

theorem Spells.length_given_le {parts : List Part} {ms : List Member} (h : Spells parts ms) :
    (given ms).length ≤ parts.length := by
  have hsubset : (given ms).map Prod.fst ⊆ parts.map Part.name := by
    intro name hname
    obtain ⟨p, hp, rfl⟩ := List.mem_map.1 hname
    obtain ⟨part, hpart, hpname, -⟩ := h.own _ (mem_given.1 hp) _ rfl
    exact List.mem_map.2 ⟨part, hpart, hpname⟩
  have hle := ((nodup_given h.once).subperm hsubset).length_le
  simpa using hle

section Record

variable {δ α : Type} {draft : List String → δ}

/-- What a field of a record makes of a part; `draft names` is the record once the parts of these
names have been read, in any order. -/
structure Field.Fits (draft : List String → δ) (field : Field δ) (part : Part) : Prop where
  name : field.name = part.name
  present : ∀ names, field.present (draft names) = decide (part.name ∈ names)
  reads : ∃ put, Takes field.read part.text.toList put ∧
    ∀ names, put (draft names) = draft (part.name :: names)
  needed : field.required → part.needed

theorem Field.fits_of {name : String} {part : Part} {required : Bool} {get : δ → Option α}
    {put : α → δ → δ} {r : Reader α} {a : α} (hname : name = part.name)
    (htakes : Takes r part.text.toList a)
    (hget : ∀ names, get (draft names) = if name ∈ names then some a else none)
    (hput : ∀ names, put a (draft names) = draft (name :: names))
    (hneeded : required → part.needed) : (Field.of name required get put r).Fits draft part where
  name := hname
  present names := by
    by_cases hmem : part.name ∈ names <;> simp [Field.of, hget, hname, hmem]
  reads := ⟨put a, htakes.map put, hname ▸ hput⟩
  needed := hneeded

structure Shape.Holds (shape : Shape δ) (parts : List Part) (draft : List String → δ) : Prop where
  start : draft [] = shape.start
  once : (parts.map Part.name).Nodup
  fits : List.Forall₂ (Field.Fits draft) shape.fields parts

theorem Field.find?_of_fits {fields : List (Field δ)} {parts : List Part}
    (h : List.Forall₂ (Field.Fits draft) fields parts) (honce : (parts.map Part.name).Nodup)
    {part : Part} (hpart : part ∈ parts) :
    ∃ field, fields.find? (·.name = part.name) = some field ∧ field.Fits draft part := by
  induction h with
  | nil => cases hpart
  | @cons field first fields parts hfirst _ ih =>
    obtain ⟨hnew, honce⟩ := List.nodup_cons.1 honce
    rcases List.mem_cons.1 hpart with rfl | hpart
    · exact ⟨field, List.find?_cons_of_pos (by simp [hfirst.name]), hfirst⟩
    · obtain ⟨found, hfound, hfits⟩ := ih honce hpart
      have hne : field.name ≠ part.name := by
        intro heq
        rw [hfirst.name] at heq
        exact hnew (heq ▸ List.mem_map_of_mem hpart)
      exact ⟨found, by rw [List.find?_cons_of_neg (by simpa using hne), hfound], hfits⟩

theorem Field.exists_fits {fields : List (Field δ)} {parts : List Part}
    (h : List.Forall₂ (Field.Fits draft) fields parts) {field : Field δ} (hfield : field ∈ fields) :
    ∃ part ∈ parts, field.Fits draft part := by
  induction h with
  | nil => cases hfield
  | cons hfirst _ ih =>
    rcases List.mem_cons.1 hfield with rfl | hfield
    · exact ⟨_, List.mem_cons_self, hfirst⟩
    · obtain ⟨part, hpart, hfits⟩ := ih hfield
      exact ⟨part, List.mem_cons_of_mem _ hpart, hfits⟩

end Record

namespace Shape

variable {δ : Type} {shape : Shape δ} {parts : List Part} {draft : List String → δ}

theorem nextName_brace (first : Bool) (rest : List Sign) :
    nextName first (some '\x7d' :: rest) = .ok (some '\x7d', some '\x7d' :: rest) := rfl

/-- The comma before a member is taken off. -/
theorem nextName_bodyText (first : Bool) (p : String × String) (ps : List (String × String))
    (rest : List Sign) :
    nextName first ((bodyText first (p :: ps)).map some ++ rest) =
      .ok (some '"', (pairText p).map some ++ ((bodyText false ps).map some ++ rest)) := by
  obtain ⟨cs, hpair⟩ := exists_pairText p
  have hbody : (bodyText first (p :: ps)).map some ++ rest = (if first then [] else [some ',']) ++
      (some '"' :: (cs.map some ++ ((bodyText false ps).map some ++ rest))) := by
    cases first <;> simp [bodyText, hpair]
  rw [hbody, hpair]
  cases first <;> rfl

theorem closing_bodyText (ps : List (String × String)) (rest : List Sign) :
    Closing ((bodyText false ps).map some ++ rest) := by
  cases ps with
  | nil => exact .brace rest
  | cons p ps => exact .comma _

namespace Holds

theorem entries_brace (h : shape.Holds parts draft) {names : List String}
    (hneeded : ∀ part ∈ parts, part.needed → part.name ∈ names) (first : Bool) (steps : Nat)
    (rest : List Sign) :
    shape.entries first (draft names) (steps + 1) (some '\x7d' :: rest) =
      .ok (draft names, rest) := by
  have hnone : shape.fields.find? (fun field => field.required && !field.present (draft names)) =
      none := by
    rw [List.find?_eq_none]
    intro field hfield hmissing
    obtain ⟨part, hpart, hfits⟩ := Field.exists_fits h.fits hfield
    simp only [Bool.and_eq_true, Bool.not_eq_true', hfits.present,
      decide_eq_false_iff_not] at hmissing
    exact hmissing.2 (hneeded part hpart (hfits.needed hmissing.1))
  rw [entries, nextName_brace]
  simp [hnone]

theorem entry_pair (h : shape.Holds parts draft) {part : Part} (hpart : part ∈ parts)
    {names : List String} (hnew : part.name ∉ names) (steps : Nat) {rest : List Sign}
    (hrest : Closing rest) :
    shape.entry steps (draft names) ((pairText (part.name, part.text)).map some ++ rest) =
      .ok (draft (part.name :: names), rest) := by
  obtain ⟨field, hfield, hfits⟩ := Field.find?_of_fits h.fits h.once hpart
  obtain ⟨put, htakes, hput⟩ := hfits.reads
  have habsent : field.present (draft names) = false := by
    rw [hfits.present]
    simpa using hnew
  have hinput : (pairText (part.name, part.text)).map some ++ rest =
      (quote part.name).toList.map some ++ (some ':' :: (part.text.toList.map some ++ rest)) := by
    simp [pairText]
  have hcolon : expect ':' (some ':' :: (part.text.toList.map some ++ rest)) =
      .ok ((), part.text.toList.map some ++ rest) := rfl
  have hwithin : Reader.within (.field part.name) field.read (part.text.toList.map some ++ rest) =
      .ok (put, rest) := by
    rw [Reader.within, htakes rest hrest]
  rw [hinput, entry, bind_ok (text_quote _ _), hfield]
  dsimp only
  rw [habsent, if_neg Bool.false_ne_true, bind_ok hcolon, bind_ok hwithin, hput]
  rfl

/-- The names that have been read once these members are, last first. -/
def readNames (ps : List (String × String)) (names : List String) : List String :=
  (ps.map Prod.fst).reverse ++ names

theorem readNames_cons (p : String × String) (ps : List (String × String)) (names : List String) :
    readNames (p :: ps) names = readNames ps (p.1 :: names) := by simp [readNames]

/-- The induction is on the members that are left; none of them has been read before. -/
theorem entries_bodyText (h : shape.Holds parts draft) {ps : List (String × String)}
    (hps : ∀ p ∈ ps, ∃ part ∈ parts, part.name = p.1 ∧ part.text = p.2) {names : List String}
    (hnew : (readNames ps names).Nodup)
    (hneeded : ∀ part ∈ parts, part.needed → part.name ∈ readNames ps names)
    (first : Bool) {steps : Nat} (hsteps : ps.length ≤ steps) (rest : List Sign) :
    shape.entries first (draft names) (steps + 1) ((bodyText first ps).map some ++ rest) =
      .ok (draft (readNames ps names), rest) := by
  induction ps generalizing names first steps with
  | nil => exact h.entries_brace hneeded first steps rest
  | cons p ps ih =>
    rw [readNames_cons] at hnew hneeded ⊢
    obtain ⟨⟨part, hpart, hname, htext⟩, htail⟩ := List.forall_mem_cons.1 hps
    obtain rfl : p = (part.name, part.text) := Prod.ext hname.symm htext.symm
    obtain ⟨steps, rfl⟩ := Nat.exists_eq_succ_of_ne_zero (Nat.ne_zero_of_lt hsteps)
    have hpnew : part.name ∉ names := (List.nodup_cons.1 hnew.of_append_right).1
    have hentry := h.entry_pair hpart hpnew (steps + 1) (closing_bodyText ps rest)
    rw [entries]
    simp only [nextName_bodyText, hentry]
    exact ih htail hnew hneeded false (Nat.le_of_succ_le_succ hsteps)

/-- A record is read from any of its spellings. -/
theorem takes_objectText (h : shape.Holds parts draft) {ms : List Member} (hms : Spells parts ms)
    {steps : Nat} (hsteps : (given ms).length ≤ steps) :
    ∃ names, (∀ part ∈ parts, part.needed → part.name ∈ names) ∧
      Takes (shape.read steps) (objectText ms).toList (draft names) := by
  have hps : ∀ p ∈ given ms, ∃ part ∈ parts, part.name = p.1 ∧ part.text = p.2 :=
    fun p hp => hms.own _ (mem_given.1 hp) _ rfl
  have hnew : (readNames (given ms) []).Nodup := by
    rw [readNames, List.append_nil, List.nodup_reverse]
    exact nodup_given hms.once
  have hneeded : ∀ part ∈ parts, part.needed → part.name ∈ readNames (given ms) [] := by
    intro part hpart hn
    have hmem : (part.name, part.text) ∈ given ms := mem_given.2 (hms.needed part hpart hn)
    rw [readNames, List.append_nil, List.mem_reverse]
    exact List.mem_map_of_mem hmem
  refine ⟨readNames (given ms) [], hneeded, fun rest _ => ?_⟩
  rw [toList_objectText]
  change shape.entries true shape.start (steps + 1)
    ((bodyText true (given ms)).map some ++ rest) = _
  rw [← h.start]
  exact h.entries_bodyText hps hnew hneeded true hsteps rest

end Holds

end Shape

end RouteSync.Json

import RouteSync.Proofs.Text.Digits
import RouteSync.Proofs.Text.Split
import RouteSync.Text.Blank

/-! Readers that take what a writer makes and nothing else: of numbers, words and lines. -/
namespace RouteSync.Text

variable {α β γ : Type}

/-- The reader takes what the writer makes of the things `P` holds of, and nothing else. -/
def Reads (read : α → Option β) (write : β → α) (P : β → Prop) : Prop :=
  ∀ x y, read x = some y ↔ x = write y ∧ P y

namespace Reads

variable {f : α → Option β} {g : β → Option γ} {w w' : β → α} {v : γ → β} {P P' : β → Prop}
  {Q : γ → Prop}

theorem congr (h : Reads f w P) (hw : ∀ y, w y = w' y) (hP : ∀ y, P y ↔ P' y) :
    Reads f w' P' := by
  intro x y
  rw [h x y, hw y, hP y]

theorem inj (h : Reads f w P) {y z : β} (hy : P y) (hz : P z) (heq : w y = w z) : y = z := by
  have hread : f (w y) = some y := (h _ _).2 ⟨rfl, hy⟩
  have hread' : f (w y) = some z := (h _ _).2 ⟨heq, hz⟩
  exact Option.some.inj (hread.symm.trans hread')

theorem bind (hf : Reads f w P) (hg : Reads g v Q) :
    Reads (fun x => (f x).bind g) (fun z => w (v z)) (fun z => P (v z) ∧ Q z) := by
  intro x z
  rw [Option.bind_eq_some_iff]
  constructor
  · rintro ⟨y, hy, hz⟩
    obtain ⟨rfl, hP⟩ := (hf x y).1 hy
    obtain ⟨rfl, hQ⟩ := (hg y z).1 hz
    exact ⟨rfl, hP, hQ⟩
  · rintro ⟨rfl, hP, hQ⟩
    exact ⟨v z, (hf _ _).2 ⟨rfl, hP⟩, (hg _ _).2 ⟨rfl, hQ⟩⟩

theorem mapM (h : Reads f w P) :
    Reads (fun xs : List α => xs.mapM f) (List.map w) (fun ys => ∀ y ∈ ys, P y) := by
  intro xs
  induction xs with
  | nil =>
    intro ys
    cases ys <;> simp
  | cons x xs ih =>
    intro ys
    cases ys with
    | nil => simp [Option.bind_eq_some_iff]
    | cons y ys =>
      have hcons : (x :: xs).mapM f = some (y :: ys) ↔ f x = some y ∧ xs.mapM f = some ys := by
        simp [Option.bind_eq_some_iff]
      have htail : xs.mapM f = some ys ↔ xs = ys.map w ∧ ∀ y ∈ ys, P y := ih ys
      change (x :: xs).mapM f = some (y :: ys) ↔ x :: xs = w y :: ys.map w ∧ ∀ z ∈ y :: ys, P z
      rw [hcons, h x y, htail, List.cons_eq_cons, List.forall_mem_cons]
      exact and_and_and_comm

end Reads

/-- Cutting is a reader of what is joined. -/
theorem reads_cut (sep : Char) : Reads (fun s => some (cut sep s)) (join sep)
    (fun parts => parts ≠ [] ∧ ∀ part ∈ parts, sep ∉ part.toList) := by
  intro s parts
  rw [Option.some_inj]
  exact cut_eq_iff

/-- A number in decimal digits, without idle zeros in front. -/
def number? (w : String) : Option Nat :=
  if toString (Nat.ofDigitChars 10 w.toList 0) = w then some (Nat.ofDigitChars 10 w.toList 0)
  else none

theorem toList_toString (n : Nat) : (toString n).toList = Nat.toDigits 10 n := by
  rw [Nat.toString_eq_repr, Nat.toList_repr]

theorem reads_number : Reads number? toString (fun _ => True) := by
  intro w n
  rw [number?, Option.ite_none_right_eq_some, Option.some_inj, and_true]
  constructor
  · rintro ⟨hw, rfl⟩
    exact hw.symm
  · rintro rfl
    have hn : Nat.ofDigitChars 10 (toString n).toList 0 = n := by
      rw [toList_toString, Nat.ofDigitChars_toDigits (by decide) (by decide)]
    rw [hn]
    exact ⟨rfl, rfl⟩

def portNumber? (w : String) : Option UInt16 :=
  (number? w).bind fun n => if n < UInt16.size then some (UInt16.ofNat n) else none

theorem reads_portNumber : Reads portNumber? (fun p => toString p.toNat) (fun _ => True) := by
  have hword : Reads (fun n => if n < UInt16.size then some (UInt16.ofNat n) else none)
      UInt16.toNat (fun _ => True) := by
    intro n p
    rw [Option.ite_none_right_eq_some, Option.some_inj, and_true]
    constructor
    · rintro ⟨hn, rfl⟩
      exact (UInt16.toNat_ofNat_of_lt' hn).symm
    · rintro rfl
      exact ⟨p.toNat_lt_size, UInt16.ofNat_toNat⟩
  exact (reads_number.bind hword).congr (fun _ => rfl) fun _ => by simp

/-- Nothing in it is white space. -/
def isUnbroken (w : String) : Bool := w.toList.all fun c => !isBlank c

theorem isUnbroken_iff {w : String} : isUnbroken w ↔ ∀ c ∈ w.toList, isBlank c = false := by
  simp [isUnbroken]

theorem notMem_of_isUnbroken {w : String} {c : Char} (h : isUnbroken w) (hc : isBlank c) :
    c ∉ w.toList := by
  intro hmem
  have := isUnbroken_iff.1 h c hmem
  simp [hc] at this

theorem isUnbroken_append {v w : String} : isUnbroken (v ++ w) ↔ isUnbroken v ∧ isUnbroken w := by
  simp [isUnbroken]

theorem isBlank_of_toNat {c : Char} (hlow : 33 ≤ c.toNat) (hhigh : c.toNat ≤ 126) :
    isBlank c = false := by
  simp only [isBlank, Bool.or_eq_false_iff, Bool.and_eq_false_iff, decide_eq_false_iff_not]
  omega

theorem isUnbroken_toString (n : Nat) : isUnbroken (toString n) := by
  refine isUnbroken_iff.2 fun c hc => ?_
  rw [toList_toString] at hc
  have hrange := isDigit_iff.1 (Nat.isDigit_of_mem_toDigits (by decide) (by decide) hc)
  exact isBlank_of_toNat (by omega) (by omega)

/-- Not empty, and nothing in it is white space. -/
def IsWord (w : String) : Prop := w ≠ "" ∧ isUnbroken w

instance (w : String) : Decidable (IsWord w) := inferInstanceAs (Decidable (_ ∧ _))

/-- The words of a line stand between single spaces; more spaces leave empty words. -/
def words? (line : String) : Option (List String) :=
  if (cut ' ' line).all isUnbroken then some (cut ' ' line) else none

theorem reads_words :
    Reads words? (join ' ') (fun ws => ws ≠ [] ∧ ∀ w ∈ ws, isUnbroken w) := by
  intro line ws
  rw [words?, Option.ite_none_right_eq_some, Option.some_inj, List.all_eq_true]
  constructor
  · rintro ⟨hwords, rfl⟩
    obtain ⟨hline, hne, -⟩ := cut_eq_iff.1 (rfl : cut ' ' line = cut ' ' line)
    exact ⟨hline, hne, hwords⟩
  · rintro ⟨hline, hne, hwords⟩
    have hcut : cut ' ' line = ws :=
      cut_eq_iff.2 ⟨hline, hne, fun w hw => notMem_of_isUnbroken (hwords w hw) (by decide)⟩
    rw [hcut]
    exact ⟨hwords, rfl⟩

/-- The words of every line. -/
def page? (t : String) : Option (List (List String)) := (cut '\n' t).mapM words?

theorem reads_page : Reads page? (fun page => join '\n' (page.map (join ' ')))
    (fun page => page ≠ [] ∧ ∀ ws ∈ page, ws ≠ [] ∧ ∀ w ∈ ws, isUnbroken w) := by
  refine ((reads_cut '\n').bind reads_words.mapM).congr (fun _ => rfl) fun page => ?_
  have hfeed : (∀ ws ∈ page, ws ≠ [] ∧ ∀ w ∈ ws, isUnbroken w) →
      ∀ line ∈ page.map (join ' '), '\n' ∉ line.toList := by
    intro hpage line hline hmem
    obtain ⟨ws, hws, rfl⟩ := List.mem_map.1 hline
    rcases mem_join hmem with hspace | ⟨w, hw, hmem⟩
    · exact absurd hspace (by decide)
    · exact notMem_of_isUnbroken ((hpage ws hws).2 w hw) (by decide) hmem
  rw [ne_eq, List.map_eq_nil_iff]
  constructor
  · rintro ⟨⟨hne, -⟩, hpage⟩
    exact ⟨hne, hpage⟩
  · rintro ⟨hne, hpage⟩
    exact ⟨⟨hne, hfeed hpage⟩, hpage⟩

end RouteSync.Text

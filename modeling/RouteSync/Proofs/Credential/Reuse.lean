import RouteSync.Credential.Keeper

/-! Which token a keeper gives without a call: the last one that a call brought, and only as long as
it is good for more than the margin. -/
namespace RouteSync.Credential

open Http

/-- A fetch in a run of a keeper, from when it was asked for to when its answer was there. -/
structure Visit where
  forced : Bool
  asked : Nat
  answered : Nat
  answer : Except TokenError Token
  calls : List Call

/-- The token that the visit brought by a call. -/
def Visit.brought? (v : Visit) : Option Kept :=
  if v.calls.isEmpty then none else v.answer.toOption.map fun token => ⟨token, v.answered⟩

theorem Visit.brought?_of_ok {v : Visit} {token : Token} (hcalls : v.calls ≠ [])
    (h : v.answer = .ok token) : v.brought? = some ⟨token, v.answered⟩ := by
  simp [brought?, hcalls, h, Except.toOption]

theorem Visit.brought?_of_error {v : Visit} {e : TokenError} (h : v.answer = .error e) :
    v.brought? = none := by
  simp [brought?, h, Except.toOption]

/-- The token that came last, of those that some visits brought by calls. -/
def lastBrought? (past : List Visit) : Option Kept := past.reverse.findSome? Visit.brought?

theorem lastBrought?_concat (past : List Visit) (v : Visit) :
    lastBrought? (past ++ [v]) = v.brought?.or (lastBrought? past) := by
  rw [lastBrought?, List.reverse_concat, List.findSome?_cons]
  cases v.brought? <;> rfl

theorem exists_of_lastBrought? {past : List Visit} {kept : Kept}
    (h : lastBrought? past = some kept) : ∃ v ∈ past, v.answered = kept.since := by
  obtain ⟨v, hv, hbrought⟩ := List.exists_of_findSome?_eq_some h
  refine ⟨v, List.mem_reverse.1 hv, ?_⟩
  unfold Visit.brought? at hbrought
  split at hbrought
  · cases hbrought
  · obtain ⟨token, -, rfl⟩ := Option.map_eq_some_iff.1 hbrought
    rfl

namespace Keeper

variable {first k : Keeper} {past : List Visit} {forced : Bool} {asked : Nat}

def visit (k : Keeper) (send : Send) (forced : Bool) (asked answered : Nat) : Visit where
  forced
  asked
  answered
  answer := (k.fetch send forced asked answered).answer
  calls := (k.fetch send forced asked answered).calls

/-- The fetches of a keeper one after another, whatever each is answered. -/
inductive Run (first : Keeper) : Keeper → List Visit → Prop
  | start : Run first first []
  | fetch {k : Keeper} {past : List Visit} (h : Run first k past) (send : Send) (forced : Bool)
      (asked answered : Nat) (hasked : ∀ v ∈ past, v.answered ≤ asked)
      (hanswered : asked ≤ answered) :
      Run first (k.fetch send forced asked answered).after
        (past ++ [k.visit send forced asked answered])

theorem reusable?_eq_some_iff {token : Token} :
    k.reusable? forced asked = some token ↔ forced = false ∧
      ∃ kept, k.kept = some kept ∧ k.stillGood kept asked = true ∧ kept.token = token := by
  cases forced with
  | true => simp [reusable?]
  | false =>
    simp [reusable?, Option.map_eq_some_iff, Option.filter_eq_some_iff, and_assoc]

section Fetch

variable {send : Send} {answered : Nat}

theorem fetch_of_reusable {token : Token} (h : k.reusable? forced asked = some token) :
    k.fetch send forced asked answered = { after := k, answer := .ok token } := by
  rw [Keeper.fetch, h]

theorem fetch_of_called (h : k.reusable? forced asked = none) :
    (k.fetch send forced asked answered).calls = [k.call] ∧
      (k.fetch send forced asked answered).answer = k.read (send k.call) ∧
      (k.fetch send forced asked answered).after =
        match k.read (send k.call) with
        | .ok token => { k with kept := some ⟨token, answered⟩ }
        | .error _ => k := by
  rw [Keeper.fetch, h]
  exact ⟨rfl, rfl, rfl⟩

theorem calls_eq_nil_iff :
    (k.fetch send forced asked answered).calls = [] ↔
      ∃ token, k.reusable? forced asked = some token := by
  cases h : k.reusable? forced asked with
  | none => simp [(fetch_of_called h).1]
  | some token => simp [fetch_of_reusable h]

/-- A fetch leaves a keeper that differs in the kept token alone, which is what the visit brought,
if it brought any. -/
theorem after_fetch :
    (k.fetch send forced asked answered).after =
      { k with kept := (k.visit send forced asked answered).brought?.or k.kept } := by
  cases h : k.reusable? forced asked with
  | some token => simp [visit, Visit.brought?, fetch_of_reusable h]
  | none =>
    obtain ⟨hcalls, hanswer, hafter⟩ := @fetch_of_called k forced asked send answered h
    rw [hafter]
    cases hread : k.read (send k.call) <;>
      simp [visit, Visit.brought?, hcalls, hanswer, hread, Except.toOption]

end Fetch

/-- A keeper keeps the token that was brought last, and nothing else of it ever changes. -/
theorem Run.eq_keeping (h : Run first k past) (hfirst : first.kept = none) :
    k = { first with kept := lastBrought? past } := by
  induction h with
  | start =>
    have hnone : lastBrought? [] = first.kept := hfirst.symm
    rw [hnone]
  | @fetch k past h send forced asked answered _ _ ih =>
    have hkept : k.kept = lastBrought? past := by rw [ih]
    rw [after_fetch, lastBrought?_concat, hkept]
    rw [ih]

/-- As times do not go back, what is left of a token can be told by when it runs out. -/
theorem Run.reusable?_eq_some_iff (h : Run first k past) (hfirst : first.kept = none)
    (hasked : ∀ v ∈ past, v.answered ≤ asked) {token : Token} :
    k.reusable? forced asked = some token ↔ forced = false ∧
      ∃ kept, lastBrought? past = some kept ∧ kept.since ≤ asked ∧
        asked + first.margin < kept.since + Clock.seconds kept.token.lifetime.toNat ∧
        kept.token = token := by
  have hk := h.eq_keeping hfirst
  have hkept : k.kept = lastBrought? past := by rw [hk]
  have hmargin : k.margin = first.margin := by rw [hk]
  rw [Keeper.reusable?_eq_some_iff, hkept]
  refine and_congr_right fun _ => exists_congr fun kept => and_congr_right fun hlast => ?_
  obtain ⟨v, hv, hsince⟩ := exists_of_lastBrought? hlast
  have hle : kept.since ≤ asked := hsince ▸ hasked v hv
  rw [stillGood, hmargin, decide_eq_true_eq]
  constructor
  · rintro ⟨hgood, htoken⟩
    exact ⟨hle, by omega, htoken⟩
  · rintro ⟨-, hgood, htoken⟩
    exact ⟨by omega, htoken⟩

/-- Without a call a keeper gives the token that a call brought last, if it is not forced to call
and the token is good for more than the margin; otherwise it calls once and gives what comes of
that. A call that fails leaves it as it was. -/
theorem Run.calls_unless_reusable (h : Run first k past) (hfirst : first.kept = none) (send : Send)
    (forced : Bool) {asked : Nat} (hasked : ∀ v ∈ past, v.answered ≤ asked) (answered : Nat) :
    let f := k.fetch send forced asked answered
    (f.calls = [] ↔ forced = false ∧ ∃ kept, lastBrought? past = some kept ∧
      asked + first.margin < kept.since + Clock.seconds kept.token.lifetime.toNat) ∧
    (f.calls = [] → f.after = k ∧ ∃ kept, lastBrought? past = some kept ∧
      f.answer = .ok kept.token ∧ kept.since ≤ asked ∧
      asked - kept.since < Clock.seconds kept.token.lifetime.toNat - first.margin) ∧
    (f.calls ≠ [] → f.calls = [first.call] ∧ f.answer = first.read (send first.call) ∧
      ∀ token, f.answer = .ok token → f.after = { k with kept := some ⟨token, answered⟩ }) ∧
    ∀ e, f.answer = .error e → f.after = k := by
  intro f
  have hk := h.eq_keeping hfirst
  have hcall : k.call = first.call := by rw [hk]; rfl
  have hread : k.read = first.read := by rw [hk]; rfl
  have hcalls : f.calls = [] ↔ ∃ token, k.reusable? forced asked = some token := calls_eq_nil_iff
  refine ⟨?_, fun hnone => ?_, fun hsome => ?_, fun e he => ?_⟩
  · simp only [hcalls, h.reusable?_eq_some_iff hfirst hasked]
    constructor
    · rintro ⟨-, hforced, kept, hlast, -, hgood, -⟩
      exact ⟨hforced, kept, hlast, hgood⟩
    · rintro ⟨hforced, kept, hlast, hgood⟩
      obtain ⟨v, hv, hsince⟩ := exists_of_lastBrought? hlast
      exact ⟨kept.token, hforced, kept, hlast, hsince ▸ hasked v hv, hgood, rfl⟩
  · obtain ⟨token, hreusable⟩ := hcalls.1 hnone
    have hf : f = { after := k, answer := .ok token } := fetch_of_reusable hreusable
    obtain ⟨-, kept, hlast, hle, hgood, rfl⟩ := (h.reusable?_eq_some_iff hfirst hasked).1 hreusable
    rw [hf]
    exact ⟨rfl, kept, hlast, rfl, hle, by omega⟩
  · have hreusable : k.reusable? forced asked = none :=
      Option.eq_none_iff_forall_ne_some.2 fun token htoken => hsome (hcalls.2 ⟨token, htoken⟩)
    obtain ⟨hone, hanswer, -⟩ :
        f.calls = [k.call] ∧ f.answer = k.read (send k.call) ∧ _ := fetch_of_called hreusable
    rw [hcall] at hone hanswer
    refine ⟨hone, hread ▸ hanswer, fun token htoken => ?_⟩
    have hbrought : (k.visit send forced asked answered).brought? = some ⟨token, answered⟩ :=
      Visit.brought?_of_ok hsome htoken
    exact after_fetch.trans (by rw [hbrought, Option.some_or])
  · have hbrought : (k.visit send forced asked answered).brought? = none :=
      Visit.brought?_of_error he
    exact after_fetch.trans (by rw [hbrought, Option.none_or])

/-- A token for a minute, with half of it for the margin. A call that was forced and failed does not
touch it, and it is reused to the last moment of the other half. -/
theorem reused_after_failed_call :
    let first := Keeper.ofEndpoint "https://uaa.example" "tcp_router" "secret"
    let granted : Send := fun _ => .ok ⟨200, [.chunk (Text.Utf8.bytes
      "\x7b\"access_token\":\"abc\",\"expires_in\":60\x7d")]⟩
    let refused : Send := fun _ => .ok ⟨503, []⟩
    let second := (first.fetch granted false 1000 1500).after
    let k := (second.fetch refused true 2000 2100).after
    let past := [first.visit granted false 1000 1500, second.visit refused true 2000 2100]
    Run first k past ∧ first.kept = none ∧ (∀ v ∈ past, v.answered ≤ 2100) ∧
      lastBrought? past = some ⟨⟨"abc", 60⟩, 1500⟩ ∧
      (k.fetch refused false 31499 31499).calls = [] ∧
      (k.fetch refused false 31499 31499).answer = .ok ⟨"abc", 60⟩ ∧
      (k.fetch refused false 31500 31600).calls = [first.call] ∧
      (k.fetch refused false 31500 31600).after = k := by
  intro first granted refused second k past
  have hrun : Run first k past :=
    ((@Run.start first).fetch granted false 1000 1500 (by simp) (by decide)).fetch refused true
      2000 2100 (by decide +kernel) (by decide)
  have hpast : ∀ v ∈ past, v.answered ≤ 2100 := by decide +kernel
  have hlast : lastBrought? past = some ⟨⟨"abc", 60⟩, 1500⟩ := by decide +kernel
  have hasked (asked : Nat) (h : 2100 ≤ asked) : ∀ v ∈ past, v.answered ≤ asked :=
    fun v hv => Nat.le_trans (hpast v hv) h
  obtain ⟨hreused, htoken, -, -⟩ :=
    hrun.calls_unless_reusable rfl refused false (hasked 31499 (by decide)) 31499
  obtain ⟨hover, -, hcalled, hfailed⟩ :=
    hrun.calls_unless_reusable rfl refused false (hasked 31500 (by decide)) 31600
  have hcalls : (k.fetch refused false 31499 31499).calls = [] :=
    hreused.2 ⟨rfl, _, hlast, by decide⟩
  have hcalls' : (k.fetch refused false 31500 31600).calls ≠ [] := fun hnone => by
    obtain ⟨-, kept, hkept, hgood⟩ := hover.1 hnone
    obtain rfl := Option.some.inj (hlast.symm.trans hkept)
    exact absurd hgood (by decide)
  obtain ⟨hone, hanswer, -⟩ := hcalled hcalls'
  refine ⟨hrun, rfl, hpast, hlast, hcalls, ?_, hone, hfailed _ hanswer⟩
  obtain ⟨-, kept, hkept, hanswer, -⟩ := htoken hcalls
  obtain rfl := Option.some.inj (hlast.symm.trans hkept)
  exact hanswer

end Keeper
end RouteSync.Credential

import RouteSync.Json.Value

/-! What is written for a text reads back as that text, whatever its characters are and whatever
follows in the document. -/
namespace RouteSync.Json

/-! ### Readers that take a text off the front -/

section Takes

variable {α β : Type} {r : Reader α} {a : α} {cs : List Char}

theorem bind_ok {f : α → Reader β} {input rest : List Sign} (h : r input = .ok (a, rest)) :
    (r >>= f) input = f a rest := by
  change Except.bind (r input) _ = _
  rw [h]
  rfl

theorem peek_cons {s : Sign} (h : isSpace s = false) (rest : List Sign) :
    peek (s :: rest) = .ok (s, s :: rest) := by
  unfold peek
  rw [List.dropWhile_cons_of_neg (by simp [h])]

/-- What may follow a value of a compact object. -/
inductive Closing : List Sign → Prop where
  | document : Closing []
  | comma (rest : List Sign) : Closing (some ',' :: rest)
  | brace (rest : List Sign) : Closing (some '\x7d' :: rest)

/-- The reader takes just these characters for the value `a`. -/
def Takes (r : Reader α) (cs : List Char) (a : α) : Prop :=
  ∀ rest, Closing rest → r (cs.map some ++ rest) = .ok (a, rest)

theorem Takes.map (h : Takes r cs a) (f : α → β) : Takes (f <$> r) cs (f a) := by
  intro rest hrest
  change Except.map (fun p : α × List Sign => (f p.1, p.2)) (r _) = _
  rw [h rest hrest]
  rfl

theorem Takes.document_eq (h : Takes r cs a) : document r (cs.map some) = .ok a := by
  have hread := h [] .document
  rw [List.append_nil] at hread
  rw [document, hread]
  rfl

theorem takes_null : Takes (optional r) "null".toList none := by
  intro rest _
  rfl

theorem Takes.optional {c : Char} (h : Takes r (c :: cs) a) (hspace : isSpace (some c) = false)
    (hnull : c ≠ 'n') : Takes (optional r) (c :: cs) (some a) := by
  intro rest hrest
  have hpeek : peek ((c :: cs).map some ++ rest) = .ok (some c, (c :: cs).map some ++ rest) :=
    peek_cons hspace _
  rw [Json.optional, bind_ok hpeek, if_neg (by simpa using hnull)]
  exact h.map some rest hrest

/-- A value that may be absent, with null in its place. -/
theorem takes_getD_null {write : α → String}
    (h : ∀ a, Takes (optional r) (write a).toList (some a)) (a? : Option α) :
    Takes (optional r) ((a?.map write).getD "null").toList a? := by
  cases a? with
  | none => exact takes_null
  | some a => exact h a

end Takes

/-! ### Texts -/

theorem hexDigit?_digitChar : ∀ n < 16, hexDigit? (some (Nat.digitChar n)) = some n := by decide

theorem code?_hexPair {n : Nat} (h : n < 256) :
    code? (some '0') (some '0') (some (Nat.digitChar (n / 16))) (some (Nat.digitChar (n % 16))) =
      some n := by
  have hhigh := hexDigit?_digitChar (n / 16) (by omega)
  have hlow := hexDigit?_digitChar (n % 16) (by omega)
  have hzero : hexDigit? (some '0') = some 0 := rfl
  have hsum : n / 16 * 16 + n % 16 = n := by omega
  simp [code?, hhigh, hlow, hzero, hsum]

/-- A code below 32 is no half of a pair. -/
theorem Draft.code?_control {d : Draft} (h : d.lead = none) {c : Char} (hc : isControl c) :
    d.code? c.toNat = some (d.push c) := by
  have hlt : c.toNat < 32 := by simpa [isControl] using hc
  have htrail : isTrail c.toNat = false := by
    simp only [isTrail, Bool.and_eq_false_iff, decide_eq_false_iff_not]
    omega
  have hlead : isLead c.toNat = false := by
    simp only [isLead, Bool.and_eq_false_iff, decide_eq_false_iff_not]
    omega
  simp [code?, h, htrail, hlead]

theorem textBody_letter {d : Draft} (h : d.lead = none) {c e : Char} (he : escaped? e = some c)
    (rest : List Sign) : textBody d (some '\\' :: some e :: rest) = textBody (d.push c) rest := by
  have hu : e ≠ 'u' := by
    rintro rfl
    cases he
  simp [textBody, hu, h, he]

theorem textBody_plain {d : Draft} (h : d.lead = none) {c : Char} (hquote : c ≠ '"')
    (hbackslash : c ≠ '\\') (hcontrol : isControl c = false) (rest : List Sign) :
    textBody d (some c :: rest) = textBody (d.push c) rest := by
  simp [textBody, h, hcontrol, hbackslash]

theorem textBody_escape {d : Draft} (h : d.lead = none) (c : Char) (rest : List Sign) :
    textBody d ((escape c).map some ++ rest) = textBody (d.push c) rest := by
  unfold escape
  split
  · exact textBody_letter h rfl rest
  · exact textBody_letter h rfl rest
  · exact textBody_letter h rfl rest
  · exact textBody_letter h rfl rest
  · exact textBody_letter h rfl rest
  · exact textBody_letter h rfl rest
  · exact textBody_letter h rfl rest
  · rename_i hquote hbackslash _ _ _ _ _
    split
    · rename_i hcontrol
      have hlt : c.toNat < 256 := by
        have : c.toNat < 32 := by simpa [isControl] using hcontrol
        omega
      simp [textBody, hexPair, code?_hexPair hlt, Draft.code?_control h hcontrol]
    · rename_i hcontrol
      exact textBody_plain h hquote hbackslash (by simpa using hcontrol) rest

theorem textBody_flatMap_escape {d : Draft} (hlead : d.lead = none) (hsound : d.sound = true)
    (cs : List Char) (rest : List Sign) :
    textBody d ((cs.flatMap escape).map some ++ some '"' :: rest) =
      .ok (String.ofList (d.chars.reverse ++ cs), rest) := by
  induction cs generalizing d with
  | nil => simp [textBody, Draft.close, hlead, hsound]
  | cons c cs ih =>
    have hrest := ih (d := d.push c) hlead hsound
    rw [List.flatMap_cons, List.map_append, List.append_assoc, textBody_escape hlead, hrest]
    simp [Draft.push]

theorem toList_quote (s : String) :
    (quote s).toList = '"' :: (s.toList.flatMap escape ++ ['"']) := by simp [quote]

theorem text_quote (s : String) (rest : List Sign) :
    text ((quote s).toList.map some ++ rest) = .ok (s, rest) := by
  have h := textBody_flatMap_escape (d := {}) rfl rfl s.toList rest
  rw [toList_quote]
  simpa [text] using h

theorem takes_quote (s : String) : Takes string (quote s).toList s := by
  intro rest _
  have hpeek : peek ((quote s).toList.map some ++ rest) =
      .ok (some '"', (quote s).toList.map some ++ rest) := by
    rw [toList_quote]
    exact peek_cons rfl _
  rw [string, bind_ok hpeek, if_pos rfl, text_quote]

theorem takes_optional_quote (s : String) :
    Takes (optional string) (quote s).toList (some s) := by
  have h := takes_quote s
  rw [toList_quote] at h ⊢
  exact h.optional rfl (by decide)

example : quote "a\"\\\x01é" = "\"a\\\"\\\\\\u0001é\"" := by decide

end RouteSync.Json

import Mathlib.Tactic.ByContra
import RouteSync.Proofs.Text.Utf8

/-! Reading the bytes of a text gives the text, whatever bytes follow them. -/
namespace RouteSync.Text.Utf8

section Start

variable {q : Nat}

theorem start_of_one (h : q < 128) : start (UInt8.ofNat q) = .inl (.char (Char.ofNat q)) := by
  have hnat : (UInt8.ofNat q).toNat = q :=
    UInt8.toNat_ofNat_of_lt' (show q < 256 by omega)
  simp only [start, hnat]
  rw [if_pos h]

theorem start_of_two (hlow : 2 ≤ q) (hhigh : q < 32) :
    start (UInt8.ofNat (q + 192)) = .inr ⟨q, 1, 1, 0x80, 0xBF⟩ := by
  have hnat : (UInt8.ofNat (q + 192)).toNat = q + 192 :=
    UInt8.toNat_ofNat_of_lt' (show q + 192 < 256 by omega)
  simp only [start, hnat]
  rw [if_neg (by omega), if_neg (by omega), if_pos (by omega), Nat.add_sub_cancel]

theorem start_of_three (h : q < 16) :
    start (UInt8.ofNat (q + 224)) =
      .inr ⟨q, 1, 2, if q = 0 then 0xA0 else 0x80, if q = 13 then 0x9F else 0xBF⟩ := by
  have hnat : (UInt8.ofNat (q + 224)).toNat = q + 224 :=
    UInt8.toNat_ofNat_of_lt' (show q + 224 < 256 by omega)
  simp only [start, hnat]
  rw [if_neg (by omega), if_neg (by omega), if_neg (by omega), if_pos (by omega),
    Nat.add_sub_cancel]
  simp only [Nat.add_eq_right, Nat.reduceEqDiff]

theorem start_of_four (h : q < 5) :
    start (UInt8.ofNat (q + 240)) =
      .inr ⟨q, 1, 3, if q = 0 then 0x90 else 0x80, if q = 4 then 0x8F else 0xBF⟩ := by
  have hnat : (UInt8.ofNat (q + 240)).toNat = q + 240 :=
    UInt8.toNat_ofNat_of_lt' (show q + 240 < 256 by omega)
  simp only [start, hnat]
  rw [if_neg (by omega), if_neg (by omega), if_neg (by omega), if_neg (by omega),
    if_pos (by omega), Nat.add_sub_cancel]
  simp only [Nat.add_eq_right, Nat.reduceEqDiff]

end Start

section Step

variable {ps : List Piece} {b low high : UInt8} {value size more r : Nat}

theorem step_of_start {o : Open} (h : start b = .inr o) :
    Progress.step ⟨ps, none⟩ b = ⟨ps, some o⟩ := by
  rw [Progress.step, Progress.begin, h]

/-- A byte that goes on with a character brings six bits of it. -/
theorem step_of_within (hr : r < 64) (h : low.toNat ≤ r + 128 ∧ r + 128 ≤ high.toNat) :
    Progress.step ⟨ps, some ⟨value, size, more, low, high⟩⟩ (UInt8.ofNat (r + 128)) =
      if more = 1 then ⟨.char (Char.ofNat (value * 64 + r)) :: ps, none⟩
      else ⟨ps, some ⟨value * 64 + r, size + 1, more - 1, 0x80, 0xBF⟩⟩ := by
  have hnat : (UInt8.ofNat (r + 128)).toNat = r + 128 :=
    UInt8.toNat_ofNat_of_lt' (show r + 128 < 256 by omega)
  have hwithin : (low ≤ UInt8.ofNat (r + 128) && UInt8.ofNat (r + 128) ≤ high) = true := by
    rw [Bool.and_eq_true, decide_eq_true_eq, decide_eq_true_eq, UInt8.le_iff_toNat_le,
      UInt8.le_iff_toNat_le, hnat]
    exact h
  have hvalue : r + 128 - 0x80 = r := Nat.add_sub_cancel r 128
  simp only [Progress.step, hwithin, if_true, hnat, hvalue]

theorem step_last (hr : r < 64) (h : low.toNat ≤ r + 128 ∧ r + 128 ≤ high.toNat) :
    Progress.step ⟨ps, some ⟨value, size, 1, low, high⟩⟩ (UInt8.ofNat (r + 128)) =
      ⟨.char (Char.ofNat (value * 64 + r)) :: ps, none⟩ := by
  rw [step_of_within hr h, if_pos rfl]

theorem step_more (hr : r < 64) (h : low.toNat ≤ r + 128 ∧ r + 128 ≤ high.toNat) :
    Progress.step ⟨ps, some ⟨value, size, more + 2, low, high⟩⟩ (UInt8.ofNat (r + 128)) =
      ⟨ps, some ⟨value * 64 + r, size + 1, more + 1, 0x80, 0xBF⟩⟩ := by
  rw [step_of_within hr h, if_neg (by omega)]
  rfl

theorem within_all (hr : r < 64) :
    (0x80 : UInt8).toNat ≤ r + 128 ∧ r + 128 ≤ (0xBF : UInt8).toNat := by
  change 128 ≤ r + 128 ∧ r + 128 ≤ 191
  omega

/-- A second byte is bounded more closely after the least and the greatest of the first bytes. -/
theorem within_second {q a c : Nat} (hr : r < 64) (hlow : q = a → low.toNat ≤ r + 128)
    (hhigh : q = c → r + 128 ≤ high.toNat) :
    (if q = a then low else 0x80).toNat ≤ r + 128 ∧
      r + 128 ≤ (if q = c then high else 0xBF).toNat := by
  obtain ⟨hleast, hmost⟩ := within_all hr
  constructor
  · split
    · rename_i hq
      exact hlow hq
    · exact hleast
  · split
    · rename_i hq
      exact hhigh hq
    · exact hmost

end Step

section Character

variable {ps : List Piece} {v : Nat}

theorem foldl_one (h : v ≤ 127) :
    [UInt8.ofNat v].foldl Progress.step ⟨ps, none⟩ = ⟨.char (Char.ofNat v) :: ps, none⟩ := by
  rw [List.foldl_cons, List.foldl_nil, Progress.step, Progress.begin, start_of_one (by omega)]

theorem foldl_two (hlow : 127 < v) (hhigh : v ≤ 2047) :
    [UInt8.ofNat (v / 64 % 32 + 192), UInt8.ofNat (v % 64 + 128)].foldl Progress.step ⟨ps, none⟩ =
      ⟨.char (Char.ofNat v) :: ps, none⟩ := by
  have hq : v / 64 % 32 = v / 64 := by omega
  have hr : v % 64 < 64 := by omega
  have hv : v / 64 * 64 + v % 64 = v := by omega
  rw [hq, List.foldl_cons, step_of_start (start_of_two (by omega) (by omega)), List.foldl_cons,
    step_last hr (within_all hr), List.foldl_nil, hv]

/-- The second byte tells characters from overlong forms and surrogates. -/
theorem foldl_three (hlow : 2047 < v) (hhigh : v ≤ 65535) (hvalid : v < 55296 ∨ 57343 < v) :
    [UInt8.ofNat (v / 4096 % 16 + 224), UInt8.ofNat (v / 64 % 64 + 128),
        UInt8.ofNat (v % 64 + 128)].foldl Progress.step ⟨ps, none⟩ =
      ⟨.char (Char.ofNat v) :: ps, none⟩ := by
  have hq : v / 4096 % 16 = v / 4096 := by omega
  have hr : v / 64 % 64 < 64 := by omega
  have hr' : v % 64 < 64 := by omega
  have hv : (v / 4096 * 64 + v / 64 % 64) * 64 + v % 64 = v := by omega
  have hleast : v / 4096 = 0 → (0xA0 : UInt8).toNat ≤ v / 64 % 64 + 128 := by
    intro hzero
    change 160 ≤ _
    omega
  have hmost : v / 4096 = 13 → v / 64 % 64 + 128 ≤ (0x9F : UInt8).toNat := by
    intro hsurrogates
    change _ ≤ 159
    omega
  rw [hq, List.foldl_cons, step_of_start (start_of_three (by omega)), List.foldl_cons,
    step_more hr (within_second hr hleast hmost), List.foldl_cons, step_last hr' (within_all hr'),
    List.foldl_nil, hv]

theorem foldl_four (hlow : 65535 < v) (hhigh : v < 1114112) :
    [UInt8.ofNat (v / 262144 % 8 + 240), UInt8.ofNat (v / 4096 % 64 + 128),
        UInt8.ofNat (v / 64 % 64 + 128), UInt8.ofNat (v % 64 + 128)].foldl
        Progress.step ⟨ps, none⟩ = ⟨.char (Char.ofNat v) :: ps, none⟩ := by
  have hq : v / 262144 % 8 = v / 262144 := by omega
  have hr : v / 4096 % 64 < 64 := by omega
  have hr' : v / 64 % 64 < 64 := by omega
  have hr'' : v % 64 < 64 := by omega
  have hv : ((v / 262144 * 64 + v / 4096 % 64) * 64 + v / 64 % 64) * 64 + v % 64 = v := by omega
  have hleast : v / 262144 = 0 → (0x90 : UInt8).toNat ≤ v / 4096 % 64 + 128 := by
    intro hzero
    change 144 ≤ _
    omega
  have hmost : v / 262144 = 4 → v / 4096 % 64 + 128 ≤ (0x8F : UInt8).toNat := by
    intro hlast
    change _ ≤ 143
    omega
  rw [hq, List.foldl_cons, step_of_start (start_of_four (by omega)), List.foldl_cons,
    step_more hr (within_second hr hleast hmost), List.foldl_cons, step_more hr' (within_all hr'),
    List.foldl_cons, step_last hr'' (within_all hr''), List.foldl_nil, hv]

end Character

theorem foldl_utf8EncodeChar (c : Char) (ps : List Piece) :
    (String.utf8EncodeChar c).foldl Progress.step ⟨ps, none⟩ = ⟨.char c :: ps, none⟩ := by
  have hvalid : c.val.toNat < 55296 ∨ 57343 < c.val.toNat ∧ c.val.toNat < 1114112 := c.valid
  have hc : Char.ofNat c.val.toNat = c := Char.ofNat_toNat c
  unfold String.utf8EncodeChar
  dsimp only
  split
  · rename_i hone
    rw [foldl_one hone, hc]
  split
  · rename_i hone htwo
    rw [foldl_two (Nat.lt_of_not_le hone) htwo, hc]
  split
  · rename_i htwo hthree
    rw [foldl_three (Nat.lt_of_not_le htwo) hthree (hvalid.imp_right And.left), hc]
  · rename_i hthree
    rw [foldl_four (Nat.lt_of_not_le hthree) (by omega), hc]

theorem foldl_utf8Encode (cs : List Char) (ps : List Piece) :
    (cs.flatMap String.utf8EncodeChar).foldl Progress.step ⟨ps, none⟩ =
      ⟨(cs.map .char).reverse ++ ps, none⟩ := by
  induction cs generalizing ps with
  | nil => rfl
  | cons c cs ih =>
    rw [List.flatMap_cons, List.foldl_append, foldl_utf8EncodeChar, ih]
    simp

/-- Pieces that are read do not change any more. -/
theorem step_append (p : Progress) (older : List Piece) (b : UInt8) :
    Progress.step ⟨p.pieces ++ older, p.under⟩ b =
      ⟨(p.step b).pieces ++ older, (p.step b).under⟩ := by
  have hbegin (q : List Piece) (u : Option Open) : Progress.begin ⟨q ++ older, u⟩ b =
      ⟨(Progress.begin ⟨q, u⟩ b).pieces ++ older, (Progress.begin ⟨q, u⟩ b).under⟩ := by
    unfold Progress.begin
    cases start b <;> rfl
  obtain ⟨ps, under⟩ := p
  cases under with
  | none => exact hbegin ps none
  | some o =>
    simp only [Progress.step]
    split
    · split <;> rfl
    · exact hbegin (.broken o.size :: ps) none

theorem finish_foldl_append (p : Progress) (older : List Piece) (rest : List UInt8) :
    (rest.foldl Progress.step ⟨p.pieces ++ older, p.under⟩).finish =
      older.reverse ++ (rest.foldl Progress.step p).finish := by
  induction rest generalizing p with
  | nil =>
    obtain ⟨ps, under⟩ := p
    cases under <;> simp [Progress.finish]
  | cons b rest ih => rw [List.foldl_cons, step_append, ih, List.foldl_cons]

theorem pieces_bytes_append (s : String) (rest : List UInt8) :
    pieces (bytes s ++ rest) = s.toList.map .char ++ pieces rest := by
  have hstart : (⟨(s.toList.map .char).reverse ++ [], none⟩ : Progress) =
      ⟨({} : Progress).pieces ++ (s.toList.map .char).reverse, ({} : Progress).under⟩ := by
    rw [List.append_nil]
    rfl
  rw [pieces, List.foldl_append, bytes_eq_flatMap, foldl_utf8Encode, hstart, finish_foldl_append,
    List.reverse_reverse]
  rfl

theorem lossy_bytes_append (s : String) (rest : List UInt8) :
    lossy (bytes s ++ rest) = s ++ lossy rest := by
  have hchars : (s.toList.map Piece.char).map (fun piece => piece.char?.getD '\ufffd') =
      s.toList := by
    rw [List.map_map]
    exact List.map_id' _
  rw [lossy, lossy, pieces_bytes_append, List.map_append, hchars, String.ofList_append,
    String.ofList_toList]

theorem toNat_ge_of_mem_utf8EncodeChar {c : Char} (hc : 127 < c.val.toNat) {b : UInt8}
    (h : b ∈ String.utf8EncodeChar c) : 128 ≤ b.toNat := by
  unfold String.utf8EncodeChar at h
  dsimp only at h
  rw [if_neg (Nat.not_le_of_lt hc)] at h
  split at h
  · simp only [List.mem_cons, List.not_mem_nil, or_false] at h
    rcases h with rfl | rfl <;> rw [UInt8.toNat_ofNat'] <;> omega
  split at h
  · simp only [List.mem_cons, List.not_mem_nil, or_false] at h
    rcases h with rfl | rfl | rfl <;> rw [UInt8.toNat_ofNat'] <;> omega
  · simp only [List.mem_cons, List.not_mem_nil, or_false] at h
    rcases h with rfl | rfl | rfl | rfl <;> rw [UInt8.toNat_ofNat'] <;> omega

/-- A byte below 128 is a character by itself. -/
theorem mem_of_mem_bytes {s : String} {b : UInt8} (hb : b.toNat < 128) (h : b ∈ bytes s) :
    Char.ofNat b.toNat ∈ s.toList := by
  rw [bytes_eq_flatMap, List.mem_flatMap] at h
  obtain ⟨c, hc, hbc⟩ := h
  have hone : c.val.toNat ≤ 127 := by
    by_contra hmore
    have hge := toNat_ge_of_mem_utf8EncodeChar (Nat.lt_of_not_le hmore) hbc
    omega
  have hchar : Char.ofNat c.val.toNat = c := Char.ofNat_toNat c
  unfold String.utf8EncodeChar at hbc
  dsimp only at hbc
  rw [if_pos hone, List.mem_singleton] at hbc
  have hnat : (UInt8.ofNat c.val.toNat).toNat = c.val.toNat :=
    UInt8.toNat_ofNat_of_lt' (show c.val.toNat < 256 by omega)
  rw [hbc, hnat, hchar]
  exact hc

end RouteSync.Text.Utf8

import RouteSync.Text.Utf8

/-! The bytes of a text tell the text. -/
namespace RouteSync.Text.Utf8

theorem toList_loop (b : ByteArray) (i : Nat) (before : List UInt8) :
    ByteArray.toList.loop b i before = before.reverse ++ b.data.toList.drop i := by
  fun_induction ByteArray.toList.loop b i before with
  | case1 i before hlt ih =>
    have hget : b.data.toList.drop i = b.get! i :: b.data.toList.drop (i + 1) := by
      have hlt' : i < b.data.toList.length := by simpa using hlt
      rw [List.drop_eq_getElem_cons hlt']
      simp [ByteArray.get!, hlt]
    rw [ih, hget, List.reverse_cons, List.append_assoc]
    rfl
  | case2 i before hle =>
    have hnil : b.data.toList.drop i = [] :=
      List.drop_eq_nil_of_le (by simpa using Nat.le_of_not_lt hle)
    rw [hnil, List.append_nil]

theorem bytes_eq (s : String) : bytes s = s.toByteArray.data.toList :=
  toList_loop s.toByteArray 0 []

theorem bytes_inj {s t : String} : bytes s = bytes t ↔ s = t := by
  rw [bytes_eq, bytes_eq, Array.toList_inj, ← String.toByteArray_inj, ByteArray.ext_iff]

theorem bytes_eq_flatMap (s : String) : bytes s = s.toList.flatMap String.utf8EncodeChar := by
  rw [bytes_eq, ← String.utf8Encode_toList, List.utf8Encode, List.data_toByteArray]

theorem bytes_of_ascii {s : String} (h : ∀ c ∈ s.toList, c.toNat < 128) :
    bytes s = s.toList.map fun c => UInt8.ofNat c.toNat := by
  have hone : ∀ c ∈ s.toList, String.utf8EncodeChar c = [UInt8.ofNat c.toNat] := fun c hc =>
    if_pos (Nat.le_of_lt_succ (h c hc))
  calc
    bytes s = s.toList.flatMap String.utf8EncodeChar := bytes_eq_flatMap s
    _ = s.toList.flatMap fun c => [UInt8.ofNat c.toNat] := by
      rw [List.flatMap_def, List.map_congr_left hone, ← List.flatMap_def]
    _ = s.toList.map fun c => UInt8.ofNat c.toNat := List.map_eq_flatMap.symm

/-- The bytes of two texts are in the order of the texts. -/
theorem bytes_lt_of_ascii {s t : String} (hs : ∀ c ∈ s.toList, c.toNat < 128)
    (ht : ∀ c ∈ t.toList, c.toNat < 128) (h : s < t) : bytes s < bytes t := by
  have hbyte {c d : Char} (hd : d.toNat < 128) (hcd : c < d) :
      UInt8.ofNat c.toNat < UInt8.ofNat d.toNat := by
    have hlt : c.toNat < d.toNat := hcd
    rw [UInt8.lt_iff_toNat_lt, UInt8.toNat_ofNat', UInt8.toNat_ofNat']
    omega
  have hlex : List.Lex (· < ·) s.toList t.toList := h
  rw [bytes_of_ascii hs, bytes_of_ascii ht]
  generalize s.toList = cs at hs hlex
  generalize t.toList = ds at ht hlex
  induction hlex with
  | nil => exact List.Lex.nil
  | cons _ ih =>
    exact List.Lex.cons (ih (fun c hc => hs c (List.mem_cons_of_mem _ hc))
      fun c hc => ht c (List.mem_cons_of_mem _ hc))
  | rel hcd => exact List.Lex.rel (hbyte (ht _ List.mem_cons_self) hcd)

end RouteSync.Text.Utf8

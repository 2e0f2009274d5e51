/-
# Plain beginnings

A character of ASCII is one byte, and unless that is the percent sign it begins no escape.
So it stands for itself, whatever comes after it, and decoding a text leaves a beginning
made of such characters alone (`toList_percentDecoded_append`).
-/
import Roster.Text.Percent

namespace Roster.Text

variable {c : Char} {cs rest : List Char} {kept : List UInt8}

/-! ## Bytes -/

theorem toList_loop (bs : ByteArray) (i : Nat) (r : List UInt8) :
    ByteArray.toList.loop bs i r = r.reverse ++ bs.data.toList.drop i := by
  fun_induction ByteArray.toList.loop bs i r with
  | case1 i r h ih =>
      have hi : i < bs.data.toList.length := h
      have hget : bs.get! i = bs.data.toList[i] := getElem!_pos bs.data i h
      rw [ih, List.drop_eq_getElem_cons hi, List.reverse_cons, List.append_assoc, hget]
      rfl
  | case2 i r h =>
      have hi : bs.data.toList.length ≤ i := Nat.not_lt.mp h
      rw [List.drop_eq_nil_of_le hi, List.append_nil]

/-- The bytes of a text are those of its characters. -/
theorem bytes_ofList (cs : List Char) :
    bytes (String.ofList cs) = cs.flatMap String.utf8EncodeChar := by
  show (String.ofList cs).toByteArray.toList = _
  rw [ByteArray.toList, toList_loop, String.toByteArray_ofList, List.utf8Encode,
    List.toList_data_toByteArray]
  rfl

/-! ## Characters that stand for themselves -/

/-- A character of ASCII that begins no escape. -/
def Plain (c : Char) : Prop := c.toNat < 0x80 ∧ c ≠ '%'

instance : DecidablePred Plain := fun c => inferInstanceAs (Decidable (c.toNat < 0x80 ∧ c ≠ '%'))

theorem utf8EncodeChar_of_plain (h : Plain c) : String.utf8EncodeChar c = [c.toNat.toUInt8] :=
  String.utf8EncodeChar_eq_singleton (Char.utf8Size_eq_one_iff.mpr (Nat.lt_succ_iff.mp h.1))

theorem percentDecode_cons_of_ne {b : UInt8} {bs : List UInt8} (h : b ≠ 0x25) :
    percentDecode kept (b :: bs) = b :: percentDecode kept bs := by
  rw [percentDecode]
  rintro a c r rfl
  exact absurd rfl h

theorem toList_percentDecoded_nil : (percentDecoded kept (String.ofList [])).toList = [] := by
  rw [percentDecoded, bytes_ofList]
  rfl

/-- A character that stands for itself is decoded to itself, whatever follows. -/
theorem toList_percentDecoded_cons (h : Plain c) (cs : List Char) :
    (percentDecoded kept (String.ofList (c :: cs))).toList =
      c :: (percentDecoded kept (String.ofList cs)).toList := by
  have hlt : c.toNat.toUInt8.toNat = c.toNat := Nat.mod_eq_of_lt (Nat.lt_trans h.1 (by decide))
  have hne : c.toNat.toUInt8 ≠ 0x25 := by
    intro hpercent
    rw [hpercent] at hlt
    exact h.2 (Char.toNat_inj.mp hlt.symm)
  unfold percentDecoded ofBytes
  rw [String.toList_ofList, String.toList_ofList, bytes_ofList, bytes_ofList, List.flatMap_cons,
    utf8EncodeChar_of_plain h, List.singleton_append, percentDecode_cons_of_ne hne, decodeFrom,
    hlt, startChar, if_pos h.1, Char.ofNat_toNat]
  rfl

/-- **A plain beginning is left alone.** -/
theorem toList_percentDecoded_append (h : ∀ c ∈ cs, Plain c) (rest : List Char) :
    (percentDecoded kept (String.ofList (cs ++ rest))).toList =
      cs ++ (percentDecoded kept (String.ofList rest)).toList := by
  induction cs with
  | nil => rfl
  | cons c cs ih =>
      rw [List.cons_append, toList_percentDecoded_cons (h c List.mem_cons_self),
        ih fun d hd => h d (List.mem_cons_of_mem c hd), List.cons_append]

end Roster.Text

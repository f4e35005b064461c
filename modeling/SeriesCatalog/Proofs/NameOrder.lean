import Mathlib.Tactic.SplitIfs
import SeriesCatalog.Proofs.NameMap

/-! # The order of names

Names are ordered by their code points. The encoding of a character is as long as its code point
needs, with a first byte that tells the length and the leading digits first, so that the bytes of
two names are in the same order as their characters.
-/

namespace SeriesCatalog

def nameBytes (name : String) : List UInt8 :=
  name.toUTF8.data.toList

theorem nameBytes_eq (name : String) :
    nameBytes name = name.toList.flatMap String.utf8EncodeChar := by
  have encoded : name.toByteArray = name.toList.utf8Encode := by
    rw [← String.toByteArray_ofList, String.ofList_toList]
  rw [nameBytes, String.toUTF8_eq_toByteArray, encoded, List.utf8Encode, List.data_toByteArray]

theorem utf8EncodeChar_ne_nil (c : Char) : String.utf8EncodeChar c ≠ [] := by
  unfold String.utf8EncodeChar
  dsimp only
  split
  · exact List.cons_ne_nil _ _
  · split
    · exact List.cons_ne_nil _ _
    · split <;> exact List.cons_ne_nil _ _

/-- Whatever follows two different characters, their bytes decide. -/
theorem utf8EncodeChar_append_lt {c d : Char} (less : c < d) (s t : List UInt8) :
    String.utf8EncodeChar c ++ s < String.utf8EncodeChar d ++ t := by
  have values : c.val.toNat < d.val.toNat := UInt32.lt_iff_toNat_lt.1 less
  have bound : d.val.toNat < 1114112 := by
    rcases d.valid with low | ⟨-, high⟩ <;> omega
  unfold String.utf8EncodeChar
  dsimp only
  generalize c.val.toNat = v at values
  generalize d.val.toNat = w at values bound
  have digits : ∀ n, n / 4096 = n / 64 / 64 ∧ n / 262144 = n / 64 / 64 / 64 := by
    intro n
    omega
  rw [(digits v).1, (digits v).2, (digits w).1, (digits w).2]
  -- A longer encoding has the greater first byte; those of one length compare digit by digit.
  split_ifs <;>
    simp only [List.cons_append, List.nil_append, List.cons_lt_cons_iff, UInt8.lt_iff_toNat_lt,
      ← UInt8.toNat_inj, UInt8.toNat_ofNat'] <;>
    omega

theorem flatMap_utf8EncodeChar_lt {s t : List Char} (less : s < t) :
    s.flatMap String.utf8EncodeChar < t.flatMap String.utf8EncodeChar := by
  induction t generalizing s with
  | nil => exact absurd less (List.not_lt_nil s)
  | cons d t ih =>
    rw [List.flatMap_cons]
    cases s with
    | nil =>
      obtain ⟨first, rest, bytes⟩ := List.exists_cons_of_ne_nil (utf8EncodeChar_ne_nil d)
      rw [bytes, List.flatMap_nil, List.cons_append]
      exact List.nil_lt_cons _ _
    | cons c s =>
      rw [List.flatMap_cons]
      rcases List.cons_lt_cons_iff.1 less with first | ⟨rfl, rest⟩
      · exact utf8EncodeChar_append_lt first _ _
      · exact List.append_left_lt (ih rest)

theorem nameBytes_lt {a b : String} (less : a < b) : nameBytes a < nameBytes b := by
  rw [nameBytes_eq, nameBytes_eq]
  exact flatMap_utf8EncodeChar_lt (String.lt_iff.1 less)

theorem NameMap.keys_sorted_bytes {α : Type} (m : NameMap α) :
    m.keys.Pairwise fun a b => nameBytes a < nameBytes b :=
  m.keys_sorted.imp nameBytes_lt

end SeriesCatalog

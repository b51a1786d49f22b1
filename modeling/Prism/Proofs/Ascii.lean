import Mathlib.Data.List.Basic

namespace Prism.Text

/-- The octets of a text. -/
def octets (text : String) : List Nat := text.toByteArray.data.toList.map UInt8.toNat

def encoded (c : Char) : List Nat := (String.utf8EncodeChar c).map UInt8.toNat

theorem octets_ofList (chars : List Char) : octets (String.ofList chars) = chars.flatMap encoded := by
  simp only [octets, String.toByteArray_ofList, List.utf8Encode, List.toList_data_toByteArray, List.map_flatMap]
  rfl

theorem encoded_of_lt {c : Char} (small : c.toNat < 128) : encoded c = [c.toNat] := by
  have bound : c.val.toNat < 128 := small
  have first : c.val.toNat ≤ 127 := by omega
  rw [encoded, String.utf8EncodeChar]
  simp only [first, if_true, List.map_singleton, UInt8.toNat_ofNat']
  rw [Nat.mod_eq_of_lt (by omega)]
  rfl

theorem exists_le_of_encoded {c : Char} (large : 128 ≤ c.toNat) : ∃ octet ∈ encoded c, 128 ≤ octet := by
  have bound : ¬ c.val.toNat ≤ 127 := by
    have : 128 ≤ c.val.toNat := large
    omega
  rw [encoded, String.utf8EncodeChar]
  simp only [bound, if_false]
  split
  · refine ⟨_, List.mem_map_of_mem (List.mem_cons_self ..), ?_⟩
    rw [UInt8.toNat_ofNat']
    omega
  · split
    · refine ⟨_, List.mem_map_of_mem (List.mem_cons_self ..), ?_⟩
      rw [UInt8.toNat_ofNat']
      omega
    · refine ⟨_, List.mem_map_of_mem (List.mem_cons_self ..), ?_⟩
      rw [UInt8.toNat_ofNat']
      omega

theorem octets_of_lt {text : String} (small : ∀ c ∈ text.toList, c.toNat < 128) :
    octets text = text.toList.map Char.toNat := by
  obtain ⟨chars, rfl⟩ := text.exists_eq_ofList
  rw [String.toList_ofList] at small ⊢
  rw [octets_ofList, List.map_eq_flatMap]
  exact List.flatMap_congr fun c member => encoded_of_lt (small c member)

/-- The characters of a text if all are ASCII. -/
def ascii? (text : String) : Option (List Char) :=
  if (octets text).all (· < 128) then some ((octets text).map Char.ofNat) else none

theorem toList_of_ascii? {text : String} {chars : List Char} (ascii : ascii? text = some chars) :
    text.toList = chars := by
  rw [ascii?] at ascii
  split at ascii
  · next small =>
    obtain rfl := Option.some.inj ascii
    have within : ∀ c ∈ text.toList, c.toNat < 128 := by
      obtain ⟨chars, rfl⟩ := text.exists_eq_ofList
      rw [String.toList_ofList]
      rw [octets_ofList] at small
      intro c member
      by_contra large
      obtain ⟨octet, inside, high⟩ := exists_le_of_encoded (Nat.le_of_not_lt large)
      have low := of_decide_eq_true (List.all_eq_true.mp small octet (List.mem_flatMap.mpr ⟨c, member, inside⟩))
      omega
    rw [octets_of_lt within, List.map_map, show Char.ofNat ∘ Char.toNat = id from funext Char.ofNat_toNat, List.map_id]
  · exact absurd ascii (by simp)

end Prism.Text

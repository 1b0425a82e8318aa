import SyncDir.Server.Server

/-!
# Lists in a packet

`list_to_packet_content` makes one text of a list, with a semicolon behind every entry.  Its
overload for a string should take the entries apart again.
-/

namespace SyncDir

namespace Server

/-- The loop of `list_to_packet_content` for a string. -/
def scanContent (content : Bytes) (left i : ℕ) (result : List Bytes) : List Bytes :=
  if within : i < content.length then
    if content[i] = 59 then
      -- The second argument of `substr` is a length.
      scanContent content i (i + 1) (result ++ [(content.drop left).take i])
    else
      scanContent content left (i + 1) result
  else
    result
termination_by content.length - i

/-- `list_to_packet_content` for a string, which its header calls `packet_content_to_list`. -/
def packet_content_to_list (content : Bytes) : List Bytes :=
  scanContent content 1 1 []

/-- There are as many entries as semicolons. -/
theorem scanContent_length (content : Bytes) (left i : ℕ) (result : List Bytes) :
    (scanContent content left i result).length =
      result.length + (content.drop i).count 59 := by
  induction left, i, result using scanContent.induct content with
  | case1 left i result within semicolon ih =>
      rw [scanContent, dif_pos within, if_pos semicolon, ih, List.drop_eq_getElem_cons within,
        List.count_cons, if_pos (beq_iff_eq.mpr semicolon), List.length_append,
        List.length_singleton]
      omega
  | case2 left i result within other ih =>
      rw [scanContent, dif_pos within, if_neg other, ih, List.drop_eq_getElem_cons within,
        List.count_cons_of_ne other]
  | case3 left i result beyond =>
      rw [scanContent, dif_neg beyond, List.drop_eq_nil_of_le (by omega), List.count_nil,
        Nat.add_zero]

theorem scanContent_eq_append (content : Bytes) (left i : ℕ) (result : List Bytes) :
    ∃ later, scanContent content left i result = result ++ later := by
  induction left, i, result using scanContent.induct content with
  | case1 left i result within semicolon ih =>
      rcases ih with ⟨later, same⟩
      rw [scanContent, dif_pos within, if_pos semicolon, same, List.append_assoc]
      exact ⟨_, rfl⟩
  | case2 left i result within other ih =>
      rw [scanContent, dif_pos within, if_neg other]
      exact ih
  | case3 left i result beyond =>
      rw [scanContent, dif_neg beyond]
      exact ⟨[], (List.append_nil result).symm⟩

theorem scanContent_skip {before skipped rest : Bytes} (noSemicolon : 59 ∉ skipped) (left : ℕ)
    (result : List Bytes) :
    scanContent (before ++ (skipped ++ rest)) left before.length result =
      scanContent (before ++ (skipped ++ rest)) left (before.length + skipped.length) result := by
  induction skipped generalizing before with
  | nil => rw [List.length_nil, Nat.add_zero]
  | cons byte skipped ih =>
      have within : before.length < (before ++ (byte :: skipped ++ rest)).length := by simp
      have other : (before ++ (byte :: skipped ++ rest))[before.length] ≠ 59 := by
        intro semicolon
        simp only [List.cons_append, List.getElem_append_right le_rfl, Nat.sub_self,
          List.getElem_cons_zero] at semicolon
        exact noSemicolon (semicolon ▸ List.mem_cons_self)
      have moved : scanContent (before ++ [byte] ++ (skipped ++ rest)) left
          (before ++ [byte]).length result = _ :=
        ih fun semicolon_mem => noSemicolon (List.mem_cons_of_mem _ semicolon_mem)
      rw [scanContent, dif_pos within, if_neg other]
      simpa [Nat.add_comm, Nat.add_left_comm, Nat.add_assoc] using moved

theorem scanContent_semicolon (before rest : Bytes) (left : ℕ) (result : List Bytes) :
    scanContent (before ++ 59 :: rest) left before.length result =
      scanContent (before ++ 59 :: rest) before.length (before.length + 1)
        (result ++ [((before ++ 59 :: rest).drop left).take before.length]) := by
  have within : before.length < (before ++ 59 :: rest).length := by simp
  have semicolon : (before ++ 59 :: rest)[before.length] = 59 := by
    simp only [List.getElem_append_right le_rfl, Nat.sub_self, List.getElem_cons_zero]
  rw [scanContent, dif_pos within, if_pos semicolon]

theorem list_to_packet_content_cons (entry : Bytes) (vec : List Bytes) :
    list_to_packet_content (entry :: vec) =
      [91] ++ (entry ++ 59 :: ((vec.map fun entry => entry ++ ascii ";").flatten ++ [93])) := by
  have semicolon : ascii ";" = [59] := rfl
  have opening : ascii "[" = [91] := rfl
  have closing : ascii "]" = [93] := rfl
  rw [list_to_packet_content, List.map_cons, List.flatten_cons, opening, closing, semicolon]
  simp only [List.append_assoc, List.cons_append, List.nil_append]

/-- The first entry that is found has the semicolon behind it. -/
theorem head_packet_content_to_list {entry : Bytes} (noSemicolon : 59 ∉ entry)
    (vec : List Bytes) :
    ∃ later, packet_content_to_list (list_to_packet_content (entry :: vec)) =
      (entry ++ [59]) :: later := by
  rw [packet_content_to_list, list_to_packet_content_cons]
  set rest := (vec.map fun entry => entry ++ ascii ";").flatten ++ [93]
  have skipped : scanContent ([91] ++ (entry ++ 59 :: rest)) 1 1 [] =
      scanContent ([91] ++ (entry ++ 59 :: rest)) 1 (1 + entry.length) [] :=
    scanContent_skip noSemicolon 1 []
  have found : scanContent ([91] ++ entry ++ 59 :: rest) 1 ([91] ++ entry).length [] = _ :=
    scanContent_semicolon ([91] ++ entry) rest 1 []
  have first : (([91] ++ entry ++ 59 :: rest).drop 1).take ([91] ++ entry).length =
      entry ++ [59] := by
    simp [List.take_append, List.take_of_length_le]
  rw [first, List.append_assoc, List.length_append, List.length_singleton] at found
  rw [skipped, found]
  exact scanContent_eq_append _ _ _ _

theorem count_list_to_packet_content (vec : List Bytes) :
    ((list_to_packet_content vec).drop 1).count 59 =
      (vec.map fun entry => entry.count 59).sum + vec.length := by
  have dropped : (list_to_packet_content vec).drop 1 =
      (vec.map fun entry => entry ++ ascii ";").flatten ++ ascii "]" := rfl
  have closing : (ascii "]").count 59 = 0 := rfl
  have semicolon : (ascii ";").count 59 = 1 := rfl
  rw [dropped, List.count_append, closing, Nat.add_zero]
  induction vec with
  | nil => rfl
  | cons entry vec ih =>
      rw [List.map_cons, List.flatten_cons, List.count_append, List.count_append, semicolon, ih rfl,
        List.map_cons, List.sum_cons, List.length_cons]
      omega

/-- Only the empty list is taken apart as it has been put together. -/
theorem packet_content_to_list_eq_iff (vec : List Bytes) :
    packet_content_to_list (list_to_packet_content vec) = vec ↔ vec = [] := by
  constructor
  · intro same
    have lengths := congrArg List.length same
    rw [packet_content_to_list, scanContent_length, count_list_to_packet_content,
      List.length_nil] at lengths
    cases vec with
    | nil => rfl
    | cons entry vec =>
        have noSemicolon : 59 ∉ entry := by
          rw [← List.count_eq_zero]
          rw [List.map_cons, List.sum_cons] at lengths
          omega
        rcases head_packet_content_to_list noSemicolon vec with ⟨later, head⟩
        rw [same] at head
        have longer := congrArg List.length (List.cons.inj head).1
        simp at longer
  · rintro rfl
    rw [← List.length_eq_zero_iff, packet_content_to_list, scanContent_length]
    rfl

/-- Of a list with the entry `a`, the entry `a;` is read. -/
theorem packet_content_to_list_a :
    packet_content_to_list (list_to_packet_content [ascii "a"]) = [ascii "a;"] := by
  have text : list_to_packet_content [ascii "a"] = ascii "[a;]" := by decide
  rw [text, packet_content_to_list]
  decide +kernel

end Server

end SyncDir

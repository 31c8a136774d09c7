/-
Byte offsets and the places that they mean.

The place behind a front of a text counts the bytes of the front, its line ends and the characters behind the last of
these (`after_start`). An offset is looked up among the starts of the lines. In the starts of a text, those of the lines
up to a place stand in front, the last of them is the start of the line of that place, and all others are behind the
place; so bisection finds this line, and the characters from its start on are the ones in front of the place.

- `bisect_line`: bisection finds the last entry that is not above a number.
- `positionAt_front`: the offset of a place means this place.
- `positionAt_beyond`: an offset past the end means the end.
-/
import Mathlib.Tactic.Common
import Templating.Position
import Templating.Proofs.Trimming

namespace Templating

variable {byte n k : Nat} {front rest text init last : List Char}

/-! ## Counting -/

namespace Position

theorem byte_after (p : Position) (text : List Char) : (p.after text).byte = p.byte + byteLength text := by
  have hboth : ∀ (text : List Char) (p q : Position), (p.after text).byte + q.byte = p.byte + (q.after text).byte := by
    intro text
    induction text with
    | nil => exact fun p q => rfl
    | cons c text ih =>
      intro p q
      have hrest := ih (p.advance c) (q.advance c)
      rw [byte_advance, byte_advance] at hrest
      rw [after_cons, after_cons]
      omega
  exact hboth text p start

theorem line_after (p : Position) (text : List Char) : (p.after text).line = p.line + text.count '\n' := by
  induction text generalizing p with
  | nil => rfl
  | cons c text ih =>
    rw [after_cons, ih, List.count_cons, advance]
    by_cases hc : c = '\n'
    · simp only [hc, if_true, beq_self_eq_true]
      omega
    · simp [hc]

/-- a text without line ends is counted in columns -/
theorem col_after (p : Position) (h : '\n' ∉ text) : (p.after text).col = p.col + text.length := by
  induction text generalizing p with
  | nil => rfl
  | cons c text ih =>
    obtain ⟨hc, htext⟩ := not_or.1 (h ∘ List.mem_cons.2)
    rw [after_cons, ih _ htext, advance, if_neg (Ne.symm hc), List.length_cons]
    dsimp only
    omega

end Position

@[simp] theorem byteLength_nil : byteLength [] = 0 := rfl

theorem byteLength_append (s t : List Char) : byteLength (s ++ t) = byteLength s + byteLength t := by
  rw [byteLength, Position.after_append, Position.byte_after, ← byteLength]

theorem byteLength_cons (c : Char) (text : List Char) : byteLength (c :: text) = c.utf8Size + byteLength text := by
  rw [byteLength, Position.after_cons, Position.byte_after, Position.byte_advance, Position.start, Nat.zero_add]

/-- the bytes of a text are those of its UTF-8 form -/
theorem byteLength_toList (s : String) : byteLength s.toList = s.utf8ByteSize := by
  induction s using String.push_induction with
  | empty => rfl
  | push s c ih => rw [String.toList_push, byteLength_append, ih, byteLength_cons, String.utf8ByteSize_push]; rfl

/-! ## Cutting at offsets -/

theorem dropBytes_front (front rest : List Char) : dropBytes (byteLength front) (front ++ rest) = rest := by
  induction front with
  | nil => cases rest <;> rfl
  | cons c front ih =>
    have hsize := c.utf8Size_pos
    rw [byteLength_cons, List.cons_append, dropBytes, if_neg (by omega), Nat.add_sub_cancel_left, ih]

theorem takeBytes_front (front rest : List Char) : takeBytes (byteLength front) (front ++ rest) = front := by
  induction front with
  | nil => cases rest <;> rfl
  | cons c front ih =>
    have hsize := c.utf8Size_pos
    rw [byteLength_cons, List.cons_append, takeBytes, if_neg (by omega), Nat.add_sub_cancel_left, ih]

/-! ## Lines -/

/-- the text is nothing, or lines with their ends -/
def IsLines (text : List Char) : Prop :=
  ∀ c ∈ text.getLast?, c = '\n'

/-- the text behind the last line end -/
def lastLine (text : List Char) : List Char :=
  (text.reverse.takeWhile (· ≠ '\n')).reverse

/-- a text is lines and what stands behind the last line end -/
theorem exists_lines (text : List Char) :
    ∃ lines, text = lines ++ lastLine text ∧ IsLines lines ∧ '\n' ∉ lastLine text := by
  refine ⟨(text.reverse.dropWhile (· ≠ '\n')).reverse, ?_, fun c hc => ?_, fun hmem => ?_⟩
  · rw [lastLine, ← List.reverse_append, List.takeWhile_append_dropWhile, List.reverse_reverse]
  · have hnot := List.head?_dropWhile_not (· ≠ '\n') text.reverse
    rw [List.getLast?_reverse] at hc
    rw [Option.mem_def.1 hc] at hnot
    simpa using hnot
  · simpa using List.mem_takeWhile_imp (List.mem_reverse.1 hmem)

/-- lines end where a column starts -/
theorem IsLines.col (h : IsLines text) : (Position.start.after text).col = 0 := by
  rcases List.eq_nil_or_concat text with rfl | ⟨init, c, rfl⟩
  · rfl
  · obtain rfl : c = '\n' := h c (by simp)
    rw [List.concat_eq_append, Position.after_append, Position.after_cons, Position.advance, if_pos rfl,
      Position.after_nil]

/-- **The place behind a text** counts its bytes, its line ends and what is behind the last of these. -/
theorem Position.after_start (text : List Char) :
    start.after text = ⟨byteLength text, text.count '\n', (lastLine text).length⟩ := by
  obtain ⟨lines, htext, hlines, hlast⟩ := exists_lines text
  have hline : (start.after text).line = text.count '\n' := by rw [line_after, start, Nat.zero_add]
  have hcol : (start.after text).col = (lastLine text).length := by
    rw [htext, after_append, col_after _ hlast, hlines.col, Nat.zero_add, ← htext]
  calc start.after text = ⟨(start.after text).byte, (start.after text).line, (start.after text).col⟩ := rfl
    _ = ⟨byteLength text, text.count '\n', (lastLine text).length⟩ := by rw [hline, hcol, byteLength]

/-! ## Starts of lines -/

theorem lineStartsAfter_append (byte : Nat) (s t : List Char) :
    lineStartsAfter byte (s ++ t) = lineStartsAfter byte s ++ lineStartsAfter (byte + byteLength s) t := by
  induction s generalizing byte with
  | nil => rfl
  | cons c s ih =>
    rw [List.cons_append, lineStartsAfter, lineStartsAfter, byteLength_cons, ih, Nat.add_assoc]
    split <;> rfl

theorem length_lineStartsAfter (byte : Nat) (text : List Char) :
    (lineStartsAfter byte text).length = text.count '\n' := by
  induction text generalizing byte with
  | nil => rfl
  | cons c text ih =>
    rw [lineStartsAfter, List.count_cons]
    by_cases hc : c = '\n' <;> simp [hc, ih]

/-- a line starts behind a character of the text -/
theorem lineStartsAfter_range (h : k ∈ lineStartsAfter byte text) : byte < k ∧ k ≤ byte + byteLength text := by
  induction text generalizing byte with
  | nil => cases h
  | cons c text ih =>
    have hsize := c.utf8Size_pos
    rw [byteLength_cons]
    rw [lineStartsAfter] at h
    have hbehind : k = byte + c.utf8Size ∨ k ∈ lineStartsAfter (byte + c.utf8Size) text := by
      split at h
      · exact List.mem_cons.1 h
      · exact .inr h
    rcases hbehind with rfl | hbehind
    · omega
    · have hrest := ih hbehind
      omega

/-- **The starts of lines** up to the end of a text: the last is the place behind its last line end. -/
theorem exists_starts (h : IsLines init) (hlast : '\n' ∉ last) :
    ∃ before, 0 :: lineStartsAfter 0 (init ++ last) = before ++ [byteLength init] ∧
      before.length = (init ++ last).count '\n' ∧ ∀ k ∈ before, k < byteLength init := by
  have hnone : lineStartsAfter (byteLength init) last = [] := by
    rw [← List.length_eq_zero_iff, length_lineStartsAfter, List.count_eq_zero]
    exact hlast
  rw [lineStartsAfter_append, Nat.zero_add, hnone, List.append_nil, List.count_append, List.count_eq_zero.2 hlast]
  rcases List.eq_nil_or_concat init with rfl | ⟨inside, c, rfl⟩
  · exact ⟨[], rfl, rfl, by simp⟩
  · obtain rfl : c = '\n' := h c (by simp)
    have hsize : byteLength (inside ++ ['\n']) = byteLength inside + 1 := by rw [byteLength_append]; rfl
    rw [List.concat_eq_append, hsize]
    refine ⟨0 :: lineStartsAfter 0 inside, ?_, ?_, fun k hk => ?_⟩
    · rw [lineStartsAfter_append, Nat.zero_add]
      rfl
    · rw [List.length_cons, length_lineStartsAfter, List.count_append]
      rfl
    · rcases List.mem_cons.1 hk with rfl | hk
      · omega
      · have hrange := lineStartsAfter_range hk
        omega

/-! ## Bisection -/

/-- the entries between which is searched still hold the last one that is not above the number -/
theorem bisect_window {entries : Array Nat} {low high : Nat} (hbefore : ∀ i < k, entries.getD i 0 < n)
    (hat : entries.getD k 0 ≤ n) (hbehind : ∀ i, k < i → i < entries.size → n < entries.getD i 0)
    (hhigh : high ≤ entries.size) (hlow : low ≤ k + 1) (hk : k < high) :
    (match bisect entries n low high with
      | .ok line => line
      | .error next => next - 1) = k := by
  fun_induction bisect entries n low high with
  | case1 low high hlt middle entry hentry =>
    have hmiddle : middle < entries.size := by omega
    rcases Nat.lt_trichotomy middle k with hlt | heq | hgt
    · exact absurd hentry (Nat.ne_of_lt (hbefore middle hlt))
    · exact heq
    · exact absurd hentry (Nat.ne_of_gt (hbehind middle hgt hmiddle))
  | case2 low high hlt middle entry hentry hless ih =>
    have hmiddle : middle ≤ k := by
      by_contra hgt
      have hmore := hbehind middle (by omega) (by omega)
      exact absurd hless (Nat.lt_asymm hmore)
    exact ih hhigh (by omega) hk
  | case3 low high hlt middle entry hentry hless ih =>
    have hmiddle : k < middle := by
      by_contra hle
      have hentryLe : entry ≤ n := by
        rcases Nat.lt_or_eq_of_le (Nat.le_of_not_lt hle) with hlt | heq
        · exact Nat.le_of_lt (hbefore middle hlt)
        · rw [← heq] at hat
          exact hat
      omega
    exact ih (by omega) hlow hmiddle
  | case4 low high hlt =>
    show low - 1 = k
    omega

/-- **Bisection finds the last entry** that is not above the number, when what is in front of it is below the number and
what is behind it above. -/
theorem bisect_line {before behind : List Nat} {entry : Nat} (hbefore : ∀ k ∈ before, k < n) (hentry : entry ≤ n)
    (hbehind : ∀ k ∈ behind, n < k) :
    (match bisect (before ++ entry :: behind).toArray n 0 (before ++ entry :: behind).toArray.size with
      | .ok line => line
      | .error next => next - 1) = before.length := by
  have hget : ∀ i, (before ++ entry :: behind).toArray.getD i 0 = (before ++ entry :: behind)[i]?.getD 0 := by
    intro i
    rw [Array.getD_eq_getD_getElem?, List.getElem?_toArray]
  refine bisect_window (fun i hi => ?_) ?_ (fun i hi hbound => ?_) (Nat.le_refl _) (Nat.zero_le _) (by simp)
  · rw [hget, List.getElem?_append_left hi, List.getElem?_eq_getElem hi]
    exact hbefore _ (List.getElem_mem hi)
  · rw [hget, List.getElem?_append_right (Nat.le_refl _), Nat.sub_self]
    exact hentry
  · obtain ⟨j, rfl⟩ := Nat.exists_eq_add_of_lt hi
    have hj : j < behind.length := by
      simp only [List.size_toArray, List.length_append, List.length_cons] at hbound
      omega
    have hindex : before.length + j + 1 - before.length = j + 1 := by omega
    rw [hget, List.getElem?_append_right (by omega), hindex, List.getElem?_cons_succ, List.getElem?_eq_getElem hj]
    exact hbehind _ (List.getElem_mem hj)

/-! ## Offsets -/

/-- **The offset of a place** means this place. -/
theorem positionAt_front (front rest : List Char) :
    positionAt (front ++ rest) (byteLength front) = Position.start.after front := by
  obtain ⟨lines, hfront, hlines, hlast⟩ := exists_lines front
  obtain ⟨before, hstarts, hcount, hbefore⟩ := exists_starts hlines hlast
  rw [← hfront] at hstarts hcount
  have hsize : byteLength front = byteLength lines + byteLength (lastLine front) := by
    rw [← byteLength_append, ← hfront]
  -- the starts of the lines up to the place are the first ones
  have hindex : (LineIndex.ofSource (front ++ rest)).starts =
      (before ++ byteLength lines :: lineStartsAfter (byteLength front) rest).toArray := by
    rw [LineIndex.ofSource, lineStartsAfter_append, Nat.zero_add, ← List.cons_append, hstarts, List.append_assoc,
      List.singleton_append]
  have hline : (LineIndex.ofSource (front ++ rest)).lineOf (byteLength front) = before.length := by
    rw [LineIndex.lineOf, hindex]
    refine bisect_line (fun k hk => ?_) ?_ fun k hk => (lineStartsAfter_range hk).1
    · exact Nat.lt_of_lt_of_le (hbefore k hk) (by omega)
    · omega
  have hstart : (LineIndex.ofSource (front ++ rest)).starts.getD before.length 0 = byteLength lines := by
    rw [hindex, Array.getD_eq_getD_getElem?, List.getElem?_toArray, List.getElem?_append_right (Nat.le_refl _),
      Nat.sub_self]
    rfl
  have hslice : takeBytes (byteLength front - byteLength lines) (dropBytes (byteLength lines) (front ++ rest)) =
      lastLine front := by
    have hdrop : dropBytes (byteLength lines) (front ++ rest) = lastLine front ++ rest := by
      conv_lhs => rw [hfront, List.append_assoc]
      exact dropBytes_front lines _
    rw [hdrop, hsize, Nat.add_sub_cancel_left, takeBytes_front]
  have hmin : min (byteLength front) (byteLength (front ++ rest)) = byteLength front := by
    rw [byteLength_append]
    omega
  rw [positionAt, LineIndex.position, Position.after_start]
  simp only [LineIndex.ofSource] at hline hstart ⊢
  rw [hmin, hline, hstart, hslice, hcount]

/-- **An offset past the end** means the end. -/
theorem positionAt_beyond {source : List Char} (h : byteLength source ≤ byte) :
    positionAt source byte = Position.start.after source := by
  have hend := positionAt_front source []
  rw [List.append_nil] at hend
  rw [← hend, positionAt, positionAt, LineIndex.position, LineIndex.position]
  simp only [LineIndex.ofSource, Nat.min_eq_right h, Nat.min_self]

end Templating

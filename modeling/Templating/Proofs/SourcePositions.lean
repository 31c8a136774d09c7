/-
Source positions are exact.

A place of a source is a front of it. Its position is what is counted in the front, whichever way it is found: by the
index of lines from the byte offset, or by the reading of the source, which counts along. More text means a later
position, in bytes as in lines and columns, and the reading only goes on; so the outputs and tags of a source come in
the order of their positions.

- `Position.before_after`: more text goes on to a later line, or to a later column of the line.
- `Scan.places`: the regions that a reading finds are one behind the other.
- `filterMap_tokensOf`: the trim marks and the comments leave the places of outputs and tags as they are.
- `positions_exact`: so every position is that of its offset, and those of tokens rise.
-/
import Templating.Proofs.LineIndex
import Templating.Proofs.TokenPlaces

namespace Templating

variable {position : Position} {text rest : List Char}

namespace Position

/-- the place is in front of the other one, by lines and columns -/
def Before (p q : Position) : Prop :=
  p.line < q.line ∨ p.line = q.line ∧ p.col < q.col

/-- the place is reached by more text -/
def Reaches (p q : Position) : Prop :=
  ∃ text, text ≠ [] ∧ q = p.after text

/-- **More text goes on** to a later line, or to a later column of the line. -/
theorem before_after (p : Position) (h : text ≠ []) : p.Before (p.after text) := by
  by_cases hline : '\n' ∈ text
  · have hcount := List.count_pos_iff.2 hline
    left
    rw [line_after]
    omega
  · have hlength := List.length_pos_iff.2 h
    right
    rw [line_after, col_after p hline, List.count_eq_zero.2 hline]
    omega

theorem Reaches.before {p q : Position} (h : p.Reaches q) : p.byte < q.byte ∧ p.Before q := by
  obtain ⟨text, htext, rfl⟩ := h
  have hlength := List.length_pos_iff.2 htext
  have hbytes := p.add_length_le text
  exact ⟨by omega, p.before_after htext⟩

end Position

/-- fronts of one text are ordered by their bytes -/
theorem reaches_of_byteLength_lt {front front' rest' : List Char} (h : front ++ rest = front' ++ rest')
    (hbytes : byteLength front < byteLength front') :
    (Position.start.after front).Reaches (Position.start.after front') := by
  rcases List.append_eq_append_iff.1 h with ⟨more, rfl, -⟩ | ⟨more, rfl, -⟩
  · rw [byteLength_append] at hbytes
    refine ⟨more, ?_, Position.after_append _ _ _⟩
    rintro rfl
    exact absurd hbytes (Nat.lt_irrefl _)
  · rw [byteLength_append] at hbytes
    omega

namespace Template

variable {regions : List Region} {all : List Token}

/-! ## Places of regions and tokens -/

/-- where a region is told to stand -/
def Region.place? (region : Region) : Option Position :=
  region.code?.map Prod.fst

/-- where a token is told to stand -/
def Token.place? (token : Token) : Option Position :=
  token.code?.map Prod.fst

theorem filterMap_consText (c : Char) (regions : List Region) :
    (consText c regions).filterMap Region.place? = regions.filterMap Region.place? := by
  cases regions with
  | nil => rfl
  | cons region regions => cases region <;> rfl

/-- **The regions that a reading finds** are one behind the other, from where the reading starts. -/
theorem Scan.places (h : Scan position text regions) :
    (regions.filterMap Region.place?).Pairwise Position.Reaches ∧
      ∀ q ∈ regions.filterMap Region.place?, ∃ front, q = position.after front := by
  induction h with
  | nil => simp
  | @char position c rest regions _ _ ih =>
    rw [filterMap_consText]
    refine ⟨ih.1, fun q hq => ?_⟩
    obtain ⟨front, rfl⟩ := ih.2 q hq
    exact ⟨c :: front, rfl⟩
  | @region position piece rest region regions hregion _ ih =>
    obtain ⟨piece', hpiece, hisRegion, hplaced, -⟩ := exists_piece hregion
    obtain rfl := List.append_cancel_right hpiece
    have hbehind : ∀ q ∈ regions.filterMap Region.place?, ∃ front, q = position.after (piece ++ front) := fun q hq => by
      obtain ⟨front, rfl⟩ := ih.2 q hq
      exact ⟨front, (Position.after_append _ _ _).symm⟩
    cases hplace : region.place? with
    | none =>
      rw [List.filterMap_cons_none hplace]
      refine ⟨ih.1, fun q hq => ?_⟩
      obtain ⟨front, rfl⟩ := hbehind q hq
      exact ⟨piece ++ front, rfl⟩
    | some place =>
      obtain rfl : place = position := by
        rw [← hplaced] at hplace
        cases region <;> cases hplace <;> rfl
      rw [List.filterMap_cons_some hplace, List.pairwise_cons]
      refine ⟨⟨fun q hq => ?_, ih.1⟩, fun q hq => ?_⟩
      · obtain ⟨front, rfl⟩ := hbehind q hq
        exact ⟨piece ++ front, by simp [hisRegion.ne_nil], rfl⟩
      · rcases List.mem_cons.1 hq with rfl | hq
        · exact ⟨[], rfl⟩
        · obtain ⟨front, rfl⟩ := hbehind q hq
          exact ⟨piece ++ front, rfl⟩

theorem filterMap_pushText (tokens : List Token) (s : List Char) :
    (Assembly.pushText tokens s).filterMap Token.place? = tokens.filterMap Token.place? := by
  unfold Assembly.pushText
  split_ifs <;> rfl

theorem filterMap_trimLast (mark : Bool) (tokens : List Token) :
    (Assembly.trimLast mark tokens).filterMap Token.place? = tokens.filterMap Token.place? := by
  unfold Assembly.trimLast
  split
  · rw [filterMap_pushText]
    rfl
  · rfl

/-- one more region is one more place at most, the last one first -/
theorem filterMap_step (a : Assembly) (region : Region) :
    (a.step region).tokens.filterMap Token.place? = region.place?.toList ++ a.tokens.filterMap Token.place? := by
  cases region with
  | text s => exact filterMap_pushText _ _
  | comment => rfl
  | output position inner marks | tag position name args marks =>
    have hlast := filterMap_trimLast marks.before a.tokens
    exact congrArg (position :: ·) hlast
  | verbatim body opening closing =>
    rw [Assembly.step, filterMap_pushText, filterMap_trimLast]
    rfl

/-- **The places of tokens** are those of the regions. -/
theorem filterMap_tokensOf (regions : List Region) :
    (tokensOf regions).filterMap Token.place? = regions.filterMap Region.place? := by
  have hrun : ∀ (regions : List Region) (a : Assembly), (regions.foldl Assembly.step a).tokens.filterMap Token.place? =
      (regions.filterMap Region.place?).reverse ++ a.tokens.filterMap Token.place? := by
    intro regions
    induction regions with
    | nil => exact fun a => rfl
    | cons region regions ih =>
      intro a
      rw [List.foldl_cons, ih, filterMap_step]
      cases hplace : region.place? with
      | none => rw [List.filterMap_cons_none hplace]; rfl
      | some place =>
        rw [List.filterMap_cons_some hplace, List.reverse_cons, List.append_assoc]
        rfl
  rw [tokensOf, List.filterMap_reverse, hrun, Assembly.start, List.filterMap_nil, List.append_nil, List.reverse_reverse]

/-- the opening delimiter stands in the source, and its offset means the position -/
def StartsAt (source opening : String) (position : Position) : Prop :=
  ∃ front back, source = front ++ opening ++ back ∧ position = positionAt source.toList front.utf8ByteSize

/-- **Source positions are exact.** The index answers an offset behind a front of the source with the bytes of the
front, its line ends and the characters behind the last of them. Of two such offsets the smaller one has the earlier
line, or the earlier column of the line, and an offset past the end has the position of the end. The positions of the
outputs and tags of a source rise from each to the next, and each is that of an offset at which the opening delimiter
stands. -/
theorem positions_exact (source : String) :
    (∀ front back, source = front ++ back → positionAt source.toList front.utf8ByteSize =
      ⟨front.utf8ByteSize, front.toList.count '\n', (lastLine front.toList).length⟩) ∧
    (∀ front back front' back', source = front ++ back → source = front' ++ back' →
      front.utf8ByteSize < front'.utf8ByteSize →
      (positionAt source.toList front.utf8ByteSize).Before (positionAt source.toList front'.utf8ByteSize)) ∧
    (∀ byte, source.utf8ByteSize ≤ byte → positionAt source.toList byte = endOf source) ∧
    ∀ all, tokens source = .ok all →
      (all.filterMap Token.place?).Pairwise (fun p q => p.byte < q.byte ∧ p.Before q) ∧
      (∀ expr position, .output expr position ∈ all → StartsAt source "\x7b\x7b" position) ∧
      ∀ name args position, .tag name args position ∈ all → StartsAt source "\x7b%" position := by
  have hfront : ∀ front back, source = front ++ back →
      positionAt source.toList front.utf8ByteSize = Position.start.after front.toList := by
    rintro front back rfl
    rw [String.toList_append, ← byteLength_toList, positionAt_front]
  refine ⟨fun front back hsource => ?_, fun front back front' back' hsource hsource' hbytes => ?_, fun byte hbyte => ?_,
    fun all hall => ?_⟩
  · rw [hfront front back hsource, Position.after_start, byteLength_toList]
  · have hsame : front.toList ++ back.toList = front'.toList ++ back'.toList := by
      rw [← String.toList_append, ← String.toList_append, ← hsource, ← hsource']
    rw [← byteLength_toList, ← byteLength_toList] at hbytes
    rw [hfront front back hsource, hfront front' back' hsource']
    exact (reaches_of_byteLength_lt hsame hbytes).before.2
  · rw [endOf, positionAt_beyond (by rwa [byteLength_toList])]
  · have hstarts : ∀ token ∈ all, ∀ code opening close, token.code? = some code →
        token.delimiters? = some (opening, close) → StartsAt source (String.ofList ['\x7b', opening]) code.1 := by
      intro token hmem code opening close hcode hdelimiters
      obtain ⟨front, opening', close', inner, back, hdelimiters', hsource, hposition, -⟩ :=
        exists_delimited hall hmem hcode
      obtain ⟨rfl, rfl⟩ := Prod.mk.inj (Option.some.inj (hdelimiters.symm.trans hdelimiters'))
      have hsplit : source = String.ofList front ++ String.ofList ['\x7b', opening] ++
          String.ofList (inner ++ close :: '\x7d' :: back) := by
        rw [← String.ofList_append, ← String.ofList_append, ← @String.ofList_toList source, hsource]
        simp
      refine ⟨_, _, hsplit, ?_⟩
      rw [String.append_assoc] at hsplit
      rw [hfront _ _ hsplit, String.toList_ofList, hposition]
    refine ⟨?_, fun expr position hmem => hstarts _ hmem _ _ _ rfl rfl,
      fun name args position hmem => hstarts _ hmem _ _ _ rfl rfl⟩
    obtain ⟨regions, hregions, rfl⟩ := map_eq_ok.1 hall
    rw [filterMap_tokensOf]
    exact (regionsAfter_eq_ok_iff.1 hregions).places.1.imp Position.Reaches.before

/-- an output and a tag on the second line, with letters of two bytes in front of each -/
theorem positions_exact_accents :
    let source := "é\n\x7b\x7b a \x7d\x7dü\x7b% x %\x7d"
    positionAt source.toList "é\n".utf8ByteSize = ⟨3, 1, 0⟩ ∧
      (positionAt source.toList "é\n".utf8ByteSize).Before
        (positionAt source.toList "é\n\x7b\x7b a \x7d\x7dü".utf8ByteSize) ∧
      positionAt source.toList 99 = endOf source ∧
      ([⟨3, 1, 0⟩, ⟨12, 1, 8⟩] : List Position).Pairwise (fun p q => p.byte < q.byte ∧ p.Before q) ∧
      StartsAt source "\x7b\x7b" ⟨3, 1, 0⟩ ∧ StartsAt source "\x7b%" ⟨12, 1, 8⟩ := by
  intro source
  have htokens : tokens source = .ok [.text "é\n", .output "a" ⟨3, 1, 0⟩, .text "ü", .tag "x" "" ⟨12, 1, 8⟩] := by
    decide +kernel
  obtain ⟨hexact, hrises, hbeyond, htold⟩ := positions_exact source
  obtain ⟨hplaces, houtputs, htags⟩ := htold _ htokens
  exact ⟨hexact "é\n" "\x7b\x7b a \x7d\x7dü\x7b% x %\x7d" (by decide),
    hrises "é\n" "\x7b\x7b a \x7d\x7dü\x7b% x %\x7d" "é\n\x7b\x7b a \x7d\x7dü" "\x7b% x %\x7d" (by decide) (by decide)
      (by decide),
    hbeyond 99 (by decide), hplaces, houtputs "a" _ (by simp), htags "x" "" _ (by simp)⟩

end Template

end Templating

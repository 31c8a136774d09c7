/-
Where the tokens of a source stand.

An output or a tag starts at a place to which the reading of the source comes, and its position counts what is in front
of that place (`TokenAt`).

- `Position.front_unique`: a position of a text is one place.
- `exists_tokenAt`: every output and every tag of a source stands at its position.
- `exists_delimited`: and so does its text, up to its own closing delimiter.
- `TokenAt.unique`: nothing else stands there.
-/
import Templating.Proofs.StringLiterals

namespace Templating

/-! ## Positions -/

namespace Position

/-- every character is a byte at least -/
theorem add_length_le (p : Position) (text : List Char) : p.byte + text.length ≤ (p.after text).byte := by
  induction text generalizing p with
  | nil => simp
  | cons c text ih =>
    have hrest := ih (p.advance c)
    have hpos := c.utf8Size_pos
    rw [byte_advance] at hrest
    rw [after_cons, List.length_cons]
    omega

theorem eq_nil_of_after_eq {p : Position} {text : List Char} (h : p.after text = p) : text = [] := by
  have hle := p.add_length_le text
  rw [h] at hle
  exact List.eq_nil_of_length_eq_zero (by omega)

/-- **A position of a text** is one place. -/
theorem front_unique {p : Position} {front front' rest rest' : List Char} (h : front ++ rest = front' ++ rest')
    (hposition : p.after front = p.after front') : front = front' ∧ rest = rest' := by
  rcases List.append_eq_append_iff.1 h with ⟨more, rfl, rfl⟩ | ⟨more, rfl, rfl⟩
  · rw [after_append] at hposition
    simp [eq_nil_of_after_eq hposition.symm]
  · rw [after_append] at hposition
    simp [eq_nil_of_after_eq hposition]

end Position

namespace Template

/-! ## Places -/

variable {token token' : Token} {code : Position × List Char} {position : Position} {source : List Char}

/-- the token stands at the position: the reading of the source comes to a region there, which is the token -/
def TokenAt (source : List Char) (position : Position) (token : Token) : Prop :=
  ∃ front rest region left, source = front ++ rest ∧ Outside rest front ∧ position = Position.start.after front ∧
    regionAt? position rest = some (.ok (region, left)) ∧ region.token? = some token

/-- **Every output and every tag** of a source stands at its position. -/
theorem exists_tokenAt {source : String} {all : List Token} (h : tokens source = .ok all) (hmem : token ∈ all)
    (hcode : token.code? = some code) : TokenAt source.toList code.1 token := by
  obtain ⟨regions, hregions, rfl⟩ := map_eq_ok.1 h
  rcases mem_run_token hcode (List.mem_reverse.1 hmem) with hnone | ⟨region, hregion, htoken⟩
  · cases hnone
  have hregionCode := (code?_of_token? htoken).trans hcode
  have htext : region.isText = false := by
    cases region with
    | text s => cases htoken
    | _ => rfl
  obtain ⟨front, piece, back, hsource, hout, hread⟩ := (regionsAfter_eq_ok_iff.1 hregions).found hregion htext
  obtain ⟨hposition, -⟩ := exists_inner hread hregionCode
  rw [← hposition] at hread
  exact ⟨front, piece ++ back, region, back, hsource, hout, hposition, hread, htoken⟩

/-- the character behind the first brace of an output or a tag, and the one in front of its last brace -/
def Token.delimiters? : Token → Option (Char × Char)
  | .text _ => none
  | .output .. => some ('\x7b', '\x7d')
  | .tag .. => some ('%', '%')

theorem delimiters?_of_token? {region : Region} (h : region.token? = some token) :
    region.delimiters? = token.delimiters? := by
  cases region <;> cases h <;> rfl

/-- **The text of an output or a tag**: from its position on, with the first closing delimiter outside of quotes. -/
theorem exists_delimited {source : String} {all : List Token} (h : tokens source = .ok all) (hmem : token ∈ all)
    (hcode : token.code? = some code) :
    ∃ front opening close inner back, token.delimiters? = some (opening, close) ∧
      source.toList = front ++ '\x7b' :: opening :: (inner ++ close :: '\x7d' :: back) ∧
      code.1 = Position.start.after front ∧ Quotes.outside.Closes close inner := by
  obtain ⟨front, rest, region, left, hsource, -, hposition, hread, htoken⟩ := exists_tokenAt h hmem hcode
  obtain ⟨-, opening, close, inner, back, hdelimiters, hrest, hcut, -⟩ :=
    exists_inner hread ((code?_of_token? htoken).trans hcode)
  rw [delimiters?_of_token? htoken] at hdelimiters
  rw [hrest] at hsource
  exact ⟨front, opening, close, inner, back, hdelimiters, hsource, hposition, (cutClose?_eq_some_iff.1 hcut).2⟩

/-- **One token** at most stands at a position. -/
theorem TokenAt.unique (h : TokenAt source position token) (h' : TokenAt source position token') : token = token' := by
  obtain ⟨front, rest, region, left, rfl, -, hposition, hread, htoken⟩ := h
  obtain ⟨front', rest', region', left', hsource, -, hposition', hread', htoken'⟩ := h'
  obtain ⟨-, rfl⟩ := Position.front_unique hsource (hposition.symm.trans hposition')
  rw [hread] at hread'
  cases hread'
  exact Option.some.inj (htoken.symm.trans htoken')

end Template

end Templating

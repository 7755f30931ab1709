import ParamGate.Proofs.Json.Word

/-!
# Reading characters

Reading a text takes its characters to tokens and the tokens to a value, and both machines go from
left to right. `scan` is the two in a row, from a state of each. What a blank, a mark, a word or a
text does to it is said by one equation each, so that nothing else has to look at single characters.
-/

namespace ParamGate.Json

open Text

/-- The value of the characters, read from a state of the reader and one of the lexer. -/
def scan (s : ReadState) (l : LexState) (cs : List Char) : Option Value :=
  (lexFrom l (codesOf cs)).bind (readFrom s)

/-! ## Steps -/

theorem readFrom_append (s : ReadState) (tokens more : List Token) :
    readFrom s (tokens ++ more) = (tokens.foldlM readStep s).bind fun next => readFrom next more := by
  induction tokens generalizing s with
  | nil => rfl
  | cons t tokens ih =>
      rw [List.cons_append, readFrom, List.foldlM_cons]
      cases readStep s t with
      | none => rfl
      | some next => exact ih next

/-- One character after the other. -/
theorem scan_cons (s : ReadState) (l : LexState) (c : Char) (cs : List Char) :
    scan s l (c :: cs) = (lexStep l c.toNat).bind fun r =>
      (r.1.foldlM readStep s).bind fun next => scan next r.2 cs := by
  rw [scan, codesOf, List.map_cons, lexFrom]
  cases hstep : lexStep l c.toNat with
  | none => rfl
  | some r =>
      have hrest : lexFrom r.2 (cs.map Char.toNat) = lexFrom r.2 (codesOf cs) := rfl
      simp only [Option.bind_eq_bind, Option.bind_some, hrest, scan]
      cases lexFrom r.2 (codesOf cs) with
      | none =>
          cases r.1.foldlM readStep s with
          | none => rfl
          | some next => rfl
      | some more => exact readFrom_append s r.1 more

/-- A character that gives no token yet. -/
theorem scan_silent {s : ReadState} {l m : LexState} {c : Char} (h : lexStep l c.toNat = some ([], m))
    (cs : List Char) : scan s l (c :: cs) = scan s m cs := by
  rw [scan_cons, h]
  rfl

/-- A character that gives a token. -/
theorem scan_token {s : ReadState} {l m : LexState} {c : Char} {t : Token}
    (h : lexStep l c.toNat = some ([t], m)) (cs : List Char) :
    scan s l (c :: cs) = (readStep s t).bind fun next => scan next m cs := by
  have hone : [t].foldlM readStep s = readStep s t := by
    rw [List.foldlM_cons]
    exact Option.bind_fun_some _
  rw [scan_cons, h, Option.bind_some, hone]

/-! ## Blanks and marks -/

theorem lexStep_between (c : Char) : lexStep .between c.toNat = lexStart c := by
  rw [lexStep, charOf_toNat]

theorem scan_blank {s : ReadState} {b : List Char} (hb : IsBlank b) (cs : List Char) :
    scan s .between (b ++ cs) = scan s .between cs := by
  induction b with
  | nil => rfl
  | cons c b ih =>
      have hstart : lexStart c = some ([], .between) := by
        rcases hb c List.mem_cons_self with rfl | rfl | rfl | rfl
        · rfl
        · rfl
        · rfl
        · rfl
      rw [List.cons_append, scan_silent ((lexStep_between c).trans hstart)]
      exact ih fun d hd => hb d (List.mem_cons_of_mem c hd)

/-- The marks between values. -/
theorem scan_mark {s : ReadState} {c : Char} {t : Token} (h : lexStart c = some ([t], .between))
    (cs : List Char) :
    scan s .between (c :: cs) = (readStep s t).bind fun next => scan next .between cs :=
  scan_token ((lexStep_between c).trans h) cs

/-! ## Words -/

/-- The characters do not go on with a word. -/
def EndsWord (cs : List Char) : Prop := ∀ c more, cs = c :: more → isWordChar c = false

/-- Where a word ends its value is a token. -/
theorem scan_word_end {s : ReadState} {seen cs : List Char} (hcs : EndsWord cs) :
    scan s (.word seen) cs = (word? seen.reverse).bind fun v =>
      (readStep s (.scalar v)).bind fun next => scan next .between cs := by
  cases cs with
  | nil =>
      have hstart : scan s (.word seen) [] =
          ((word? seen.reverse).map fun v => [Token.scalar v]).bind (readFrom s) := rfl
      rw [hstart]
      cases word? seen.reverse with
      | none => rfl
      | some v =>
          have hread : readFrom s [.scalar v] =
              (readStep s (.scalar v)).bind fun next => readFrom next [] := by
            rw [readFrom]
            rfl
          exact hread
  | cons c cs =>
      have hstep : lexStep (.word seen) c.toNat =
          (word? seen.reverse).bind fun v =>
            (lexStart c).map fun r => (.scalar v :: r.1, r.2) := by
        rw [lexStep, charOf_toNat]
        simp only [hcs c cs rfl]
        cases word? seen.reverse with
        | none => rfl
        | some v =>
            cases lexStart c with
            | none => rfl
            | some r => rfl
      rw [scan_cons, hstep, Option.bind_assoc]
      congr 1
      funext v
      cases hread : readStep s (.scalar v) with
      | none =>
          cases lexStart c with
          | none => rfl
          | some r => simp [List.foldlM_cons, hread]
      | some next =>
          rw [Option.bind_some, scan_cons, lexStep_between]
          cases lexStart c with
          | none => rfl
          | some r => simp [List.foldlM_cons, hread]

/-- Characters of a word are collected. -/
theorem scan_word_more {s : ReadState} {w : List Char} (hw : ∀ c ∈ w, isWordChar c = true)
    (seen cs : List Char) :
    scan s (.word seen) (w ++ cs) = scan s (.word (w.reverse ++ seen)) cs := by
  induction w generalizing seen with
  | nil => rfl
  | cons c w ih =>
      have hstep : lexStep (.word seen) c.toNat = some ([], .word (c :: seen)) := by
        rw [lexStep, charOf_toNat]
        simp only [hw c List.mem_cons_self]
        rfl
      rw [List.cons_append, scan_silent hstep, ih fun d hd => hw d (List.mem_cons_of_mem c hd),
        List.reverse_cons, List.append_assoc]
      rfl

theorem isSpace_of_isWordChar {c : Char} (h : isWordChar c = true) : isSpace c = false := by
  by_contra hspace
  simp only [isSpace, Bool.not_eq_false, Bool.or_eq_true, beq_iff_eq] at hspace
  rcases hspace with ((rfl | rfl) | rfl) | rfl
  · exact absurd h (by decide)
  · exact absurd h (by decide)
  · exact absurd h (by decide)
  · exact absurd h (by decide)

/-- A word is read as a whole. -/
theorem scan_word {s : ReadState} {w cs : List Char} (hne : w ≠ [])
    (hw : ∀ c ∈ w, isWordChar c = true) (hcs : EndsWord cs) :
    scan s .between (w ++ cs) = (word? w).bind fun v =>
      (readStep s (.scalar v)).bind fun next => scan next .between cs := by
  obtain ⟨c, more, rfl⟩ := List.exists_cons_of_ne_nil hne
  have hc := hw c List.mem_cons_self
  have hstart : lexStep .between c.toNat = some ([], .word [c]) := by
    rw [lexStep_between, lexStart, isSpace_of_isWordChar hc, hc]
    rfl
  rw [List.cons_append, scan_silent hstart,
    scan_word_more fun d hd => hw d (List.mem_cons_of_mem c hd), scan_word_end hcs,
    List.reverse_append, List.reverse_reverse]
  rfl

/-! ## Texts -/

theorem lexStep_text (seen : List Piece) (c : Char) :
    lexStep (.text seen) c.toNat = lexText seen c.toNat c := by
  rw [lexStep, charOf_toNat]

theorem shortEscapes_escape : ∀ p ∈ shortEscapes,
    p.1 ≠ 'u' ∧ (escape? p.1).map Char.toNat = some p.2 := by
  decide

theorem lexStep_short {c : Char} {n : Nat} (h : (c, n) ∈ shortEscapes) (seen : List Piece) :
    lexStep (.escape seen) c.toNat = some ([], .text (.plain n :: seen)) := by
  obtain ⟨hu, hescape⟩ := shortEscapes_escape (c, n) h
  obtain ⟨e, he, hen⟩ := Option.map_eq_some_iff.1 hescape
  rw [lexStep, charOf_toNat, if_neg hu, he, Option.map_some, hen]

/-- A digit of a code that is written out, of which `left` more digits are to come. -/
theorem lexStep_digit {c : Char} {d : Nat} (h : hexDigit? c = some d) (seen : List Piece)
    (left value : Nat) :
    lexStep (.code seen (left + 2) value) c.toNat =
      some ([], .code seen (left + 1) (16 * value + d)) := by
  rw [lexStep, charOf_toNat, h]
  simp

theorem lexStep_lastDigit {c : Char} {d : Nat} (h : hexDigit? c = some d) (seen : List Piece)
    (value : Nat) :
    lexStep (.code seen 1 value) c.toNat = some ([], .text (.written (16 * value + d) :: seen)) := by
  rw [lexStep, charOf_toNat, h]
  simp

/-- One part of a text, however it is written. -/
theorem scan_piece {s : ReadState} {p : Piece} {ps : List Char} (hp : SpellsPiece p ps)
    (seen : List Piece) (cs : List Char) :
    scan s (.text seen) (ps ++ cs) = scan s (.text (p :: seen)) cs := by
  have hslash : lexStep (.text seen) ('\\' : Char).toNat = some ([], .escape seen) := by
    rw [lexStep_text]
    rfl
  cases hp with
  | @plain c hcode hquote hback =>
      have hstep : lexText seen c.toNat c = some ([], .text (.plain c.toNat :: seen)) := by
        rw [lexText, if_neg hquote, if_neg hback, if_neg (Nat.not_lt_of_le hcode)]
      exact scan_silent ((lexStep_text seen c).trans hstep) cs
  | @short c n hcn =>
      rw [List.cons_append, scan_silent hslash]
      exact scan_silent (lexStep_short hcn seen) cs
  | @written a b c d i j k l ha hb hc hd =>
      have hu : lexStep (.escape seen) ('u' : Char).toNat = some ([], .code seen 4 0) := by
        rw [lexStep, charOf_toNat]
        rfl
      have hvalue : 16 * (16 * (16 * (16 * 0 + i) + j) + k) + l =
          ((i * 16 + j) * 16 + k) * 16 + l := by omega
      simp only [List.cons_append, List.nil_append]
      rw [scan_silent hslash, scan_silent hu, scan_silent (lexStep_digit ha seen 2 0),
        scan_silent (lexStep_digit hb seen 1 _), scan_silent (lexStep_digit hc seen 0 _),
        scan_silent (lexStep_lastDigit hd seen _), hvalue]

theorem scan_pieces {s : ReadState} {ps : List Piece} {ws : List Char} (h : SpellsPieces ps ws)
    (seen : List Piece) (cs : List Char) :
    scan s (.text seen) (ws ++ cs) = scan s (.text (ps.reverse ++ seen)) cs := by
  induction h generalizing seen with
  | nil => rfl
  | @cons p ps ps' ds hp _ ih =>
      rw [List.append_assoc, scan_piece hp, ih, List.reverse_cons, List.append_assoc]
      rfl

/-- What stands for itself, or for one character after a backslash, is no half of a character. -/
theorem isSurrogate_of_plain {ps : List Piece} {ws : List Char} (h : SpellsPieces ps ws) :
    ∀ n, .plain n ∈ ps → isSurrogate n = false := by
  have hshort : ∀ p ∈ shortEscapes, isSurrogate p.2 = false := by decide
  induction h with
  | nil => nofun
  | cons hp _ ih =>
      intro n hn
      rcases List.mem_cons.1 hn with rfl | hn
      · cases hp with
        | plain => exact isSurrogate_toNat _
        | short hcn => exact hshort _ hcn
      · exact ih n hn

theorem joinPairs_cons {n : Nat} {ns : List Nat}
    (h : ∀ m more, ns = m :: more → (isHigh n && isLow m) = false) :
    joinPairs (n :: ns) = n :: joinPairs ns := by
  cases ns with
  | nil => rfl
  | cons m more =>
      rw [joinPairs, h m more rfl]
      rfl

/-- So only codes that are written out make a character in two halves. -/
theorem joinPieces_eq {ps : List Piece} (h : ∀ n, .plain n ∈ ps → isSurrogate n = false) :
    joinPieces ps = textCodes ps := by
  simp only [textCodes]
  have hhigh : ∀ n, isSurrogate n = false → isHigh n = false := by
    intro n hn
    simp only [isSurrogate, isHigh, Bool.and_eq_false_iff, decide_eq_false_iff_not] at hn ⊢
    omega
  have hlow : ∀ n, isSurrogate n = false → isLow n = false := by
    intro n hn
    simp only [isSurrogate, isLow, Bool.and_eq_false_iff, decide_eq_false_iff_not] at hn ⊢
    omega
  fun_induction joinPieces ps with
  | case1 => rfl
  | case2 n rest ih =>
      have hn := hhigh n (h n List.mem_cons_self)
      rw [List.map_cons, Piece.code, joinPairs_cons (by simp [hn]),
        ih fun m hm => h m (List.mem_cons_of_mem _ hm)]
  | case3 high low rest hpair ih =>
      rw [List.map_cons, List.map_cons, Piece.code, Piece.code, joinPairs, if_pos hpair,
        ih fun m hm => h m (List.mem_cons_of_mem _ (List.mem_cons_of_mem _ hm))]
  | case4 high low rest hpair ih =>
      rw [List.map_cons, List.map_cons, Piece.code, Piece.code, joinPairs, if_neg hpair,
        ih fun m hm => h m (List.mem_cons_of_mem _ hm)]
      rfl
  | case5 n rest hrest ih =>
      rw [List.map_cons, Piece.code, ih fun m hm => h m (List.mem_cons_of_mem _ hm), joinPairs_cons]
      intro m more hm
      -- what follows is not written out, so it is no second half
      cases rest with
      | nil => cases hm
      | cons p rest =>
          cases p with
          | written k => exact absurd rfl (hrest k rest)
          | plain k =>
              obtain ⟨rfl, -⟩ := List.cons.inj hm
              have hk := hlow k (h k (by simp))
              simp [Piece.code, hk]

/-- A text between quotes is read as a whole. -/
theorem scan_text {s : ReadState} {ps : List Piece} {ws : List Char} (h : SpellsPieces ps ws)
    (cs : List Char) :
    scan s .between ('"' :: ws ++ '"' :: cs) =
      (readStep s (.text (textValue ps))).bind fun next => scan next .between cs := by
  have hopen : lexStep .between ('"' : Char).toNat = some ([], .text []) := rfl
  have hclose : lexStep (.text (ps.reverse ++ [])) ('"' : Char).toNat =
      some ([.text (textValue ps)], .between) := by
    rw [lexStep_text, lexText, if_pos rfl, List.append_nil, List.reverse_reverse,
      joinPieces_eq (isSurrogate_of_plain h)]
    rfl
  rw [List.cons_append, scan_silent hopen, scan_pieces h]
  exact scan_token hclose cs

end ParamGate.Json

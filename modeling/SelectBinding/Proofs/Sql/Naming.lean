import SelectBinding.Proofs.Sql.Following

/-!
Names are read part by part.
-/

namespace SelectBinding.Sql.Grammar

open Sql.Parser Sql.Reading

variable {r : Reading}

lemma IsPart.names {value part : String} {quote : Option Char} {place : Location}
    (h : IsPart r.reserved (.word value quote) part) :
    r.Names (wordIdent value quote place) part := by
  cases h with
  | quoted => rfl
  | bare hquote =>
    have hcontains : r.reserved.contains value = false := by
      simp only [Reserved.needsQuoting, Bool.or_eq_false_iff] at hquote
      exact hquote.1.2
    simp [Names, nameValue, wordIdent, hcontains]

/-- Points with words after them, which are these names. -/
inductive Pointed : List Ident → List Located → Prop where
  | nil : Pointed [] []
  | cons {dot l : Located} {ls : List Located} {idents : List Ident} {value : String}
      {quote : Option Char} (hdot : dot.token = .sign ".") (hl : l.token = .word value quote)
      (hmore : Pointed idents ls) :
      Pointed (wordIdent value quote l.place :: idents) (dot :: l :: ls)

/-- A step that reads a point and a word after it reads all of them, and the name ends where there
is no more such step. -/
lemma Pointed.runs {step : List Ident → Parser (Option (List Ident))}
    (hstep : ∀ {found : List Ident} {dot l : Located} {ls : List Located} {value : String}
      {quote : Option Char}, dot.token = .sign "." → l.token = .word value quote →
      step found ansi (dot :: l :: ls) = .ok (some (wordIdent value quote l.place :: found), ls))
    {idents : List Ident} {ls rest : List Located} (h : Pointed idents ls)
    (hdone : ∀ found, step found ansi rest = .ok (none, rest)) (found : List Ident) :
    Runs ansi step found (ls ++ rest) (idents.reverse ++ found) rest := by
  induction h generalizing found with
  | nil => exact .done (hdone found)
  | cons hdot hl _ ih =>
    simp only [List.reverse_cons, List.append_assoc, List.singleton_append]
    exact .more (hstep hdot hl) (Nat.lt_succ_of_lt (Nat.lt_succ_self _)) (ih _)

/-- The parts of a name are what they are spelled as. -/
lemma IsPath.pointed {ts : List Token} {parts : List String} (h : IsPath r.reserved ts parts)
    {dot : Located} {ls : List Located} (hdot : dot.token = .sign ".")
    (hls : ls.map Located.token = ts) :
    ∃ idents, Pointed idents (dot :: ls) ∧ List.Forall₂ r.Names idents parts := by
  induction h generalizing dot ls with
  | @last t part hpart =>
    obtain ⟨l, rfl, rfl⟩ := List.map_eq_singleton_iff.mp hls
    obtain ⟨quote, hl⟩ := hpart.eq_word
    rw [hl] at hpart
    exact ⟨[wordIdent part quote l.place], .cons hdot hl .nil, .cons hpart.names .nil⟩
  | @more t ts part parts hpart _ ih =>
    obtain ⟨l, ls, rfl, rfl, hmore⟩ := List.map_eq_cons_iff.mp hls
    obtain ⟨dot', ls, rfl, hdot', hls⟩ := List.map_eq_cons_iff.mp hmore
    obtain ⟨quote, hl⟩ := hpart.eq_word
    rw [hl] at hpart
    obtain ⟨idents, hpointed, hnames⟩ := ih hdot' hls
    exact ⟨wordIdent part quote l.place :: idents, .cons hdot hl hpointed,
      .cons hpart.names hnames⟩

/-- A step that reads a point and a part after it reads a whole name, which ends where there is no
more such step. -/
lemma IsPath.runs {step : List Ident → Parser (Option (List Ident))}
    (hstep : ∀ {found : List Ident} {dot l : Located} {ls : List Located} {value : String}
      {quote : Option Char}, dot.token = .sign "." → l.token = .word value quote →
      step found ansi (dot :: l :: ls) = .ok (some (wordIdent value quote l.place :: found), ls))
    {ts : List Token} {parts : List String} (h : IsPath r.reserved ts parts)
    {dot : Located} {ls rest : List Located} (hdot : dot.token = .sign ".")
    (hls : ls.map Located.token = ts) (hdone : ∀ found, step found ansi rest = .ok (none, rest))
    (found : List Ident) :
    ∃ idents, Runs ansi step found (dot :: (ls ++ rest)) (idents.reverse ++ found) rest ∧
      List.Forall₂ r.Names idents parts := by
  obtain ⟨idents, hpointed, hnames⟩ := h.pointed hdot hls
  exact ⟨idents, hpointed.runs hstep hdone found, hnames⟩

/-- The same after the first part of the name. -/
lemma IsPath.runs_first {step : List Ident → Parser (Option (List Ident))}
    (hstep : ∀ {found : List Ident} {dot l : Located} {ls : List Located} {value : String}
      {quote : Option Char}, dot.token = .sign "." → l.token = .word value quote →
      step found ansi (dot :: l :: ls) = .ok (some (wordIdent value quote l.place :: found), ls))
    {ts : List Token} {parts : List String} (h : IsPath r.reserved ts parts)
    {ls rest : List Located} (hls : ls.map Located.token = ts)
    (hdone : ∀ found, step found ansi rest = .ok (none, rest)) :
    ∃ l ls' value quote idents, ls = l :: ls' ∧ l.token = .word value quote ∧
      Runs ansi step [wordIdent value quote l.place] (ls' ++ rest) idents.reverse rest ∧
      List.Forall₂ r.Names idents parts := by
  cases h with
  | @last t part hpart =>
    obtain ⟨l, rfl, rfl⟩ := List.map_eq_singleton_iff.mp hls
    obtain ⟨quote, hl⟩ := hpart.eq_word
    rw [hl] at hpart
    exact ⟨l, [], part, quote, [wordIdent part quote l.place], rfl, hl, .done (hdone _),
      .cons hpart.names .nil⟩
  | @more t ts part parts hpart hrest =>
    obtain ⟨l, more, rfl, rfl, hmore⟩ := List.map_eq_cons_iff.mp hls
    obtain ⟨dot, ls, rfl, hdot, hls⟩ := List.map_eq_cons_iff.mp hmore
    obtain ⟨quote, hl⟩ := hpart.eq_word
    rw [hl] at hpart
    obtain ⟨idents, hruns, hnames⟩ :=
      hrest.runs hstep hdot hls hdone [wordIdent part quote l.place]
    refine ⟨l, _, part, quote, wordIdent part quote l.place :: idents, rfl, hl, ?_,
      .cons hpart.names hnames⟩
    simpa using hruns

/-- The term that a name is. -/
def nameTerm : List Ident → Term
  | [ident] => .name ident
  | idents => .path idents

lemma lowers_nameTerm {idents : List Ident} {parts : List String}
    (h : List.Forall₂ r.Names idents parts) :
    r.Lowers (nameTerm idents) (.var ⟨parts, none, none⟩) := by
  rcases h with _ | ⟨hfirst, _ | ⟨hsecond, hmore⟩⟩
  · exact lowers_path .nil
  · exact lowers_name hfirst
  · exact lowers_path (.cons hfirst (.cons hsecond hmore))

/-- One more part of a name, where no asterisk ends it. -/
def plainPart (found : List Ident) : Parser (Option (List Ident)) := do
  if ← asteriskEndsName then return none else nextPart found

lemma plainPart_word {found : List Ident} {dot l : Located} {ls : List Located} {value : String}
    {quote : Option Char} (hdot : dot.token = .sign ".") (hl : l.token = .word value quote) :
    plainPart found ansi (dot :: l :: ls) =
      .ok (some (wordIdent value quote l.place :: found), ls) := by
  have hasterisk (ls : List Located) : asteriskEndsName ansi ls = .ok (false, ls) := rfl
  simp only [plainPart, run_bind, hasterisk, Bool.false_eq_true, if_false, nextPart, run_sign,
    front_cons, hdot, if_true, List.tail_cons, run_next, hl, run_pure]

lemma plainPart_none {rest : List Located} (h : (front rest).token ≠ .sign ".")
    (found : List Ident) : plainPart found ansi rest = .ok (none, rest) := by
  have hasterisk (ls : List Located) : asteriskEndsName ansi ls = .ok (false, ls) := rfl
  simp only [plainPart, run_bind, hasterisk, Bool.false_eq_true, if_false, nextPart, run_sign,
    if_neg h, run_pure]

/-- A word in front of a point or a parenthesis is the first part of a name, which may be that of a
function. -/
lemma plainWord_parts (inner : Inner) (word : Ident) {ls rest : List Located} {found : List Ident}
    (hfront : (front ls).token = .sign "(" ∨ (front ls).token = .sign ".")
    (hfound : repeatedly plainPart [word] ansi ls = .ok (found, rest))
    (hrest : (front rest).token ≠ .sign ".") :
    plainWord inner word ansi ls =
      if (front rest).token = .sign "(" then callAfter inner found.reverse false ansi rest
      else .ok (.path found.reverse, rest) := by
  have hfound' : repeatedly (fun found => do
      if ← asteriskEndsName then return none else nextPart found) [word] ansi ls =
        .ok (found, rest) := hfound
  rcases hfront with hfront | hfront
  all_goals
    simp only [plainWord, run_bind, run_peek, hfront, hfound', run_sign, if_neg hrest,
      Bool.false_eq_true, if_false, run_peekSign, beq_iff_eq, run_ite, run_pure]

/-- A name is read that has several parts. -/
lemma plainWord_path {inner : Inner} {word : Ident} {part : String} (hword : r.Names word part)
    {ts : List Token} {parts : List String} (h : IsPath r.reserved ts parts) {dot : Located}
    {ls rest : List Located} (hdot : dot.token = .sign ".") (hls : ls.map Located.token = ts)
    (hrest : (front rest).token ∈ followers) :
    ∃ idents, plainWord inner word ansi (dot :: (ls ++ rest)) = .ok (nameTerm idents, rest) ∧
      List.Forall₂ r.Names idents (part :: parts) := by
  have hends : ∀ t ∈ followers, t ≠ .sign "." ∧ t ≠ .sign "(" := by decide
  obtain ⟨hpoint, hopen⟩ := hends _ hrest
  have hfront : (front (dot :: (ls ++ rest))).token = .sign "." := hdot
  obtain ⟨idents, hruns, hnames⟩ := h.runs plainPart_word hdot hls (plainPart_none hpoint) [word]
  have hterm : nameTerm (word :: idents) = .path (word :: idents) := by
    cases h <;> cases hnames <;> rfl
  refine ⟨word :: idents, ?_, .cons hword hnames⟩
  rw [plainWord_parts inner word (.inr hfront) hruns.repeatedly hpoint, if_neg hopen, hterm]
  simp

/-- The name of a function is read with the call after it. -/
lemma plainWord_call {inner : Inner} {word : Ident} {idents : List Ident} {opening : Located}
    {ls rest : List Located} (h : Pointed idents ls) (hopen : opening.token = .sign "(") :
    plainWord inner word ansi (ls ++ opening :: rest) =
      callAfter inner (word :: idents) false ansi (opening :: rest) := by
  have hpoint : (front (opening :: rest)).token ≠ .sign "." := by simp [hopen]
  have hfront : (front (ls ++ opening :: rest)).token = .sign "(" ∨
      (front (ls ++ opening :: rest)).token = .sign "." := by
    cases h with
    | nil => exact .inl hopen
    | cons hdot _ _ => exact .inr hdot
  have hruns := h.runs plainPart_word (plainPart_none hpoint) [word]
  rw [plainWord_parts inner word hfront hruns.repeatedly hpoint, front_cons, if_pos hopen]
  simp

/-- A name of one part is read. -/
lemma plainWord_name {inner : Inner} {word : Ident} {rest : List Located}
    (hrest : (front rest).token ∈ followers) :
    plainWord inner word ansi rest = .ok (nameTerm [word], rest) := by
  simp only [followers, List.mem_cons, List.not_mem_nil, or_false] at hrest
  simp only [plainWord, run_bind, run_peek]
  rcases hrest with h | h | h | h | h | h | h | h | h | h | h | h | h | h | h | h | h | h | h | h |
    h | h | h | h | h | h | h | h | h | h | h | h <;> rw [h] <;> rfl

/-! ### Asterisks -/

lemma partBeforeAsterisk_part {found : List Ident} {dot l : Located} {ls : List Located}
    {value : String} {quote : Option Char} (hdot : dot.token = .sign ".")
    (hl : l.token = .word value quote) :
    partBeforeAsterisk found ansi (dot :: l :: ls) =
      .ok (some (wordIdent value quote l.place :: found), ls) := by
  simp [partBeforeAsterisk, run_bind, run_peekSign, run_peekAt, run_next, hdot, hl, run_pure]

lemma partBeforeAsterisk_none {found : List Ident} {rest : List Located}
    (h : (front rest).token ≠ .sign ".") :
    partBeforeAsterisk found ansi rest = .ok (none, rest) := by
  simp [partBeforeAsterisk, run_bind, run_peekSign, run_map, run_peekAt, h]

/-- Words with points between them are no asterisk when none comes after them. -/
lemma asterisk_pointed {l : Located} {value : String} {quote : Option Char} {idents : List Ident}
    {ls rest : List Located} (hl : l.token = .word value quote) (h : Pointed idents ls)
    (hrest : (front rest).token ≠ .sign ".") :
    asterisk ansi (l :: (ls ++ rest)) = .ok (none, rest) := by
  have hruns := h.runs partBeforeAsterisk_part (fun _ => partBeforeAsterisk_none hrest)
    [wordIdent value quote l.place]
  simp only [asterisk, run_bind, run_next, front_cons, List.tail_cons, hl, nameBeforeAsterisk,
    hruns.repeatedly, run_sign, if_neg hrest, Bool.false_eq_true, if_false, run_pure]

/-- A name that ends with no asterisk. -/
lemma asterisk_path {ts : List Token} {parts : List String} (h : IsPath r.reserved ts parts)
    {ls rest : List Located} (hls : ls.map Located.token = ts)
    (hrest : (front rest).token ≠ .sign ".") :
    asterisk ansi (ls ++ rest) = .ok (none, rest) := by
  obtain ⟨l, ls, value, quote, idents, rfl, hl, hruns, -⟩ :=
    h.runs_first partBeforeAsterisk_part hls fun _ => partBeforeAsterisk_none hrest
  simp only [asterisk, List.cons_append, run_bind, run_next, front_cons, List.tail_cons, hl,
    nameBeforeAsterisk, hruns.repeatedly, run_sign, if_neg hrest, Bool.false_eq_true, if_false,
    run_pure]

/-- A name that ends with an asterisk. -/
lemma asterisk_qualified {ts : List Token} {parts : List String} (h : IsPath r.reserved ts parts)
    {ls : List Located} {dot star : Located} (hls : ls.map Located.token = ts)
    (hdot : dot.token = .sign ".") (hstar : star.token = .sign "*") (rest : List Located) :
    ∃ idents, asterisk ansi (ls ++ dot :: star :: rest) = .ok (some (.allOf idents), rest) ∧
      List.Forall₂ r.Names idents parts := by
  have hdone (found : List Ident) : partBeforeAsterisk found ansi (dot :: star :: rest) =
      .ok (none, dot :: star :: rest) := by
    simp [partBeforeAsterisk, run_bind, run_peekSign, run_peekAt, hstar, run_pure]
  obtain ⟨l, ls, value, quote, idents, rfl, hl, hruns, hnames⟩ :=
    h.runs_first partBeforeAsterisk_part hls hdone
  refine ⟨idents, ?_, hnames⟩
  simp only [asterisk, List.cons_append, run_bind, run_next, front_cons, List.tail_cons, hl,
    nameBeforeAsterisk, hruns.repeatedly, run_sign, hdot, if_true, run_pure, List.reverse_reverse]

end SelectBinding.Sql.Grammar

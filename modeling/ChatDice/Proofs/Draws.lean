import ChatDice.Proofs.Rejections

/-!
# Which draws are made

A generator that is recorded answers as it does otherwise, so a command rolls alike with a record
and without one (`evaluate_recorded`); `draws` is the record of one command. What a payload asks the
generator for can be read off it (`Payload.asks`): nothing for a literal, one number between one and
the number of sides for each die of a group.

Terms are rolled one after the other up to the first that cannot be taken, which is rolled too. So
the record is what all terms ask for (`bounds_drawsFor_of_ok`), or what the terms ask for up to the
one that ends the evaluation (`exists_bounds_drawsFor_of_error`).

Main statement (`draws_exactly_what_terms_ask`): the same for the texts of commands. A command that
is not parsed draws nothing and leaves the dice alone, and so it can be struck from a session
without a trace.
-/

namespace ChatDice

variable {σ : Type} {g : Generator σ} {limit : Limit}

/-! ### One payload -/

/-- The draws that a payload makes. -/
def Payload.draws (g : Generator σ) (s : σ) : Payload → List Draw
  | .literal _ => []
  | .dice spec => (g.roll spec.sides spec.count.toNat s).1.map (Draw.mk 1 spec.sides)

/-- The bounds of the draws that a payload asks for. -/
def Payload.asks : Payload → List (Int × Int)
  | .literal _ => []
  | .dice spec => List.replicate spec.count.toNat (1, spec.sides)

/-- A payload makes the draws that it asks for, whatever the answers. -/
theorem Payload.map_bounds_draws (p : Payload) (s : σ) :
    (p.draws g s).map Draw.bounds = p.asks := by
  cases p with
  | literal n => rfl
  | dice spec =>
    have hbounds : Draw.bounds ∘ Draw.mk 1 spec.sides = fun _ => (1, spec.sides) := rfl
    simp only [draws, asks, List.map_map, hbounds, List.map_const', Generator.length_roll]

/-- Dice fall alike with a record, and each die adds its draw to the record. -/
theorem Generator.roll_recorded (sides : Int) (count : Nat) (s : σ) (earlier : List Draw) :
    g.recorded.roll sides count (s, earlier) =
      ((g.roll sides count s).1, (g.roll sides count s).2,
        ((g.roll sides count s).1.map (Draw.mk 1 sides)).reverse ++ earlier) := by
  induction count generalizing s earlier with
  | zero => rfl
  | succ count ih =>
    have hdraw : g.recorded.draw (s, earlier) 1 sides =
        ((g.draw s 1 sides).1, (g.draw s 1 sides).2, ⟨1, sides, (g.draw s 1 sides).1⟩ :: earlier) :=
      rfl
    rw [roll_succ, roll_succ, hdraw, ih]
    simp

/-- A payload is appraised alike with a record, and adds its draws to the record. -/
theorem Payload.appraise_recorded (p : Payload) (s : σ) (earlier : List Draw) :
    p.appraise g.recorded (s, earlier) =
      ((p.appraise g s).1, (p.appraise g s).2, (p.draws g s).reverse ++ earlier) := by
  cases p with
  | literal n => rfl
  | dice spec => simp only [appraise, draws, Generator.roll_recorded]

/-! ### A list of terms -/

/-- The draws made for a list of terms: those of a term that cannot be taken are the last. -/
def drawsFor (g : Generator σ) : List Term → Tally → σ → List Draw
  | [], _, _ => []
  | term :: terms, account, s =>
    term.payload.draws g s ++
      match account.add term.operator (term.payload.appraise g s).1 with
      | .error _ => []
      | .ok next => drawsFor g terms next (term.payload.appraise g s).2

/-- If a term can be taken, its draws are followed by those for the other terms. -/
theorem drawsFor_cons_of_ok {term : Term} {terms : List Term} {account next : Tally} {s : σ}
    (h : account.add term.operator (term.payload.appraise g s).1 = .ok next) :
    drawsFor g (term :: terms) account s =
      term.payload.draws g s ++ drawsFor g terms next (term.payload.appraise g s).2 := by
  simp only [drawsFor, h]

/-- If a term cannot be taken, its draws are the last. -/
theorem drawsFor_cons_of_error {term : Term} {terms : List Term} {account : Tally} {s : σ}
    {failure : Failure}
    (h : account.add term.operator (term.payload.appraise g s).1 = .error failure) :
    drawsFor g (term :: terms) account s = term.payload.draws g s := by
  simp only [drawsFor, h, List.append_nil]

/-- Terms are taken alike with a record, and the record is of the draws made for them. -/
theorem tally_recorded (terms : List Term) (account : Tally) (s : σ) (earlier : List Draw) :
    tally g.recorded terms account (s, earlier) =
      ⟨(tally g terms account s).outcome,
        ((tally g terms account s).dice, (drawsFor g terms account s).reverse ++ earlier),
        (tally g terms account s).log⟩ := by
  induction terms generalizing account s earlier with
  | nil => rfl
  | cons term terms ih =>
    simp only [tally, Payload.appraise_recorded]
    cases hadd : account.add term.operator (term.payload.appraise g s).1 with
    | error failure => rw [drawsFor_cons_of_error hadd]
    | ok next => simp only [ih, drawsFor_cons_of_ok hadd, List.reverse_append, List.append_assoc]

/-- If all terms can be taken, the draws are what all of them ask for. -/
theorem bounds_drawsFor_of_ok {terms : List Term} {account next : Tally} {s : σ}
    (h : (tally g terms account s).outcome = .ok next) :
    (drawsFor g terms account s).map Draw.bounds = terms.flatMap (·.payload.asks) := by
  induction terms generalizing account s with
  | nil => rfl
  | cons term terms ih =>
    rw [outcome_tally_cons] at h
    obtain ⟨mid, hadd, hrest⟩ := bind_eq_ok_iff.mp h
    rw [drawsFor_cons_of_ok hadd, List.map_append, Payload.map_bounds_draws, ih hrest,
      List.flatMap_cons]

/-- If a term cannot be taken, the draws are what the terms ask for up to this one. -/
theorem exists_bounds_drawsFor_of_error {terms : List Term} {account : Tally} {s : σ}
    {failure : Failure} (h : (tally g terms account s).outcome = .error failure) :
    ∃ init term rest mid, terms = init ++ term :: rest ∧
      (tally g init account s).outcome = .ok mid ∧
      mid.add term.operator (term.payload.appraise g (tally g init account s).dice).1 =
        .error failure ∧
      (drawsFor g terms account s).map Draw.bounds =
        (init ++ [term]).flatMap (·.payload.asks) := by
  induction terms generalizing account s with
  | nil => cases h
  | cons term terms ih =>
    rw [outcome_tally_cons] at h
    rcases bind_eq_error_iff.mp h with hadd | ⟨next, hadd, hrest⟩
    · refine ⟨[], term, terms, account, rfl, rfl, hadd, ?_⟩
      rw [drawsFor_cons_of_error hadd, Payload.map_bounds_draws]
      simp
    · obtain ⟨init, last, rest, mid, hterms, hinit, hlast, hdraws⟩ := ih hrest
      have htally : tally g (term :: init) account s =
          { tally g init next (term.payload.appraise g s).2 with
            log := (term.payload.appraise g s).1.log ++
              (tally g init next (term.payload.appraise g s).2).log } := by
        simp only [tally, hadd]
      refine ⟨term :: init, last, rest, mid, by rw [hterms, List.cons_append], ?_, ?_, ?_⟩
      · rw [htally]
        exact hinit
      · rw [htally]
        exact hlast
      · rw [drawsFor_cons_of_ok hadd, List.map_append, Payload.map_bounds_draws, hdraws,
          List.cons_append, List.flatMap_cons]

/-! ### Commands -/

/-- The draws made while a command is evaluated, in order. -/
def draws (g : Generator σ) (limit : Limit) (command : String) (s : σ) : List Draw :=
  (evaluate g.recorded limit command (s, [])).dice.2.reverse

variable {command : String}

/-- The draws of a parsed command are made for its terms. -/
theorem draws_of_parse {terms : List Term} (h : Command.parse limit command.toList = .ok terms)
    (s : σ) : draws g limit command s = drawsFor g terms .empty s := by
  rw [draws, dice_evaluate_of_parse h, tally_recorded, List.append_nil, List.reverse_reverse]

/-- A command that is not parsed makes no draws. -/
theorem draws_of_error {failure : Failure}
    (h : Command.parse limit command.toList = .error failure) (s : σ) :
    draws g limit command s = [] := by
  rw [draws, dice_evaluate_of_error h, List.reverse_nil]

/-- A roll is evaluated alike with a record, and the record grows by the draws for its terms. -/
theorem evaluateTerms_recorded (terms : List Term) (s : σ) (earlier : List Draw) :
    evaluateTerms g.recorded terms (s, earlier) =
      ⟨(evaluateTerms g terms s).outcome,
        ((evaluateTerms g terms s).dice, (drawsFor g terms .empty s).reverse ++ earlier),
        (evaluateTerms g terms s).log⟩ := by
  simp only [evaluateTerms, tally_recorded]
  cases (tally g terms .empty s).outcome with
  | error failure => rfl
  | ok account =>
    dsimp only
    cases account.result.printTotal <;> rfl

/-- A command is evaluated alike with a record and without one, and the record grows by its
draws. -/
theorem evaluate_recorded (limit : Limit) (command : String) (s : σ) (earlier : List Draw) :
    evaluate g.recorded limit command (s, earlier) =
      ⟨(evaluate g limit command s).outcome,
        ((evaluate g limit command s).dice, (draws g limit command s).reverse ++ earlier),
        (evaluate g limit command s).log⟩ := by
  cases hparse : Command.parse limit command.toList with
  | error failure =>
    rw [draws_of_error hparse]
    simp only [evaluate, hparse, List.reverse_nil, List.nil_append]
  | ok terms =>
    rw [draws_of_parse hparse]
    simp only [evaluate, hparse, evaluateTerms_recorded]

/-- A group of dice asks for no more draws than the limit. -/
theorem exceededBy_length_asks {terms : List Term}
    (h : Command.parse limit command.toList = .ok terms) :
    ∀ term ∈ terms, ∀ spec, term.payload = .dice spec →
      limit.exceededBy term.payload.asks.length = false := by
  intro term hmem spec hspec
  have hwf := (Command.wellFormed_of_parse h).payload term hmem
  rw [hspec] at hwf ⊢
  have hcount : ((Payload.dice spec).asks.length : Int) = spec.count := by
    have hone : 1 ≤ spec.count := DiceSpec.WellFormed.one_le_count hwf
    rw [Payload.asks, List.length_replicate]
    omega
  rw [hcount]
  exact DiceSpec.WellFormed.not_exceeded hwf

/-- The draws of a parsed command, by the way in which its terms end. -/
theorem map_bounds_draws_of_parse {terms : List Term}
    (h : Command.parse limit command.toList = .ok terms) (s : σ) :
    (∃ account, (tally g terms .empty s).outcome = .ok account) ∧
        (evaluate g limit command s).outcome ≠ .error (.rejected .divisionByZero) ∧
        (draws g limit command s).map Draw.bounds = terms.flatMap (·.payload.asks) ∨
      ∃ init term rest, terms = init ++ term :: rest ∧
        (∃ account, (tally g init .empty s).outcome = .ok account) ∧
        (draws g limit command s).map Draw.bounds = (init ++ [term]).flatMap (·.payload.asks) ∧
        let appraisal := (term.payload.appraise g (tally g init .empty s).dice).1
        ((evaluate g limit command s).outcome = .error (.rejected .divisionByZero) ∧
            term.operator = .div ∧ appraisal.value = 0 ∨
          (evaluate g limit command s).outcome = .error .unprintable ∧
            appraisal.shown = .error .unprintable) := by
  rw [draws_of_parse h, outcome_evaluate_of_parse h]
  cases htally : (tally g terms .empty s).outcome with
  | ok account =>
    refine .inl ⟨⟨account, rfl⟩, ?_, bounds_drawsFor_of_ok htally⟩
    rw [Ne, outcome_evaluateTerms_eq_rejected_iff, htally]
    exact fun hcon => nomatch hcon
  | error failure =>
    obtain ⟨init, term, rest, mid, hterms, hinit, hadd, hdraws⟩ :=
      exists_bounds_drawsFor_of_error htally
    have hmem : term.operator ∈ [Operator.add, .sub, .mul, .div] := by
      refine (Command.wellFormed_of_parse h).operator_mem term ?_
      rw [hterms]
      exact List.mem_append_right init List.mem_cons_self
    refine .inr ⟨init, term, rest, hterms, ⟨mid, hinit⟩, hdraws, ?_⟩
    rcases Tally.add_eq_error_iff.mp hadd with hshown | ⟨-, happly⟩
    · obtain rfl := Payload.eq_unprintable_of_shown_appraise hshown
      exact .inr ⟨outcome_evaluateTerms_of_error htally, hshown⟩
    · obtain ⟨hdiv, hzero, rfl⟩ := (Operator.apply_eq_error_iff hmem).mp happly
      exact .inl ⟨outcome_evaluateTerms_of_error htally, hdiv, hzero⟩

/-! ### Sessions -/

/-- Commands that are not parsed can be struck from a session, here those marked `false`: what is
left behind by the others stays as it is. -/
theorem session_of_struck (g : Generator σ) (limit : Limit) {entries : List (String × Bool)}
    (h : ∀ entry ∈ entries, entry.2 = false →
      ∃ failure, Command.parse limit entry.1.toList = .error failure) (s : σ) :
    (((session g limit (entries.map Prod.fst) s).zip (entries.map Prod.snd)).filter Prod.snd).map
        Prod.fst =
      session g limit ((entries.filter Prod.snd).map Prod.fst) s := by
  induction entries generalizing s with
  | nil => rfl
  | cons entry entries ih =>
    obtain ⟨hentry, hentries⟩ := List.forall_mem_cons.mp h
    obtain ⟨command, kept⟩ := entry
    simp only [List.map_cons, session, List.zip_cons_cons]
    cases kept with
    | true =>
      rw [List.filter_cons_of_pos rfl, List.filter_cons_of_pos rfl, List.map_cons, List.map_cons,
        session, ih hentries]
    | false =>
      obtain ⟨failure, hfailure⟩ := hentry rfl
      rw [List.filter_cons_of_neg (by simp), List.filter_cons_of_neg (by simp),
        dice_evaluate_of_error hfailure, ih hentries]

/-- **Draws are exactly what the terms ask for.** A record of the draws changes nothing. A command
that is not parsed makes none and leaves the dice as they were. Of a parsed command, every group of
dice makes one draw for each die, no more than the limit, and it does so in the order of the terms:
all of them are drawn for if all can be taken, and else those up to the one that ends the
evaluation, because it divides by zero or because a number in it is too long to be printed. So, with
a record, commands that are not parsed can be struck from a session, and neither the results of the
others nor the record after each of them changes. -/
theorem draws_exactly_what_terms_ask (g : Generator σ) (limit : Limit) :
    (∀ command s,
      (evaluate g.recorded limit command (s, [])).outcome = (evaluate g limit command s).outcome ∧
      ((∃ failure, Command.parse limit command.toList = .error failure ∧
          draws g limit command s = [] ∧ (evaluate g limit command s).dice = s) ∨
        ∃ terms, Command.parse limit command.toList = .ok terms ∧
          (∀ term ∈ terms, ∀ spec, term.payload = .dice spec →
            limit.exceededBy term.payload.asks.length = false) ∧
          ((∃ account, (tally g terms .empty s).outcome = .ok account) ∧
              (evaluate g limit command s).outcome ≠ .error (.rejected .divisionByZero) ∧
              (draws g limit command s).map Draw.bounds = terms.flatMap (·.payload.asks) ∨
            ∃ init term rest, terms = init ++ term :: rest ∧
              (∃ account, (tally g init .empty s).outcome = .ok account) ∧
              (draws g limit command s).map Draw.bounds =
                (init ++ [term]).flatMap (·.payload.asks) ∧
              let appraisal := (term.payload.appraise g (tally g init .empty s).dice).1
              ((evaluate g limit command s).outcome = .error (.rejected .divisionByZero) ∧
                  term.operator = .div ∧ appraisal.value = 0 ∨
                (evaluate g limit command s).outcome = .error .unprintable ∧
                  appraisal.shown = .error .unprintable)))) ∧
    ∀ entries : List (String × Bool),
      (∀ entry ∈ entries, entry.2 = false →
        ∃ failure, Command.parse limit entry.1.toList = .error failure) →
      ∀ s earlier,
        (((session g.recorded limit (entries.map Prod.fst) (s, earlier)).zip
            (entries.map Prod.snd)).filter Prod.snd).map Prod.fst =
          session g.recorded limit ((entries.filter Prod.snd).map Prod.fst) (s, earlier) := by
  refine ⟨fun command s => ⟨?_, ?_⟩, fun entries h s earlier => session_of_struck _ limit h _⟩
  · rw [evaluate_recorded]
  · cases hparse : Command.parse limit command.toList with
    | error failure =>
      exact .inl ⟨failure, rfl, draws_of_error hparse s, dice_evaluate_of_error hparse s⟩
    | ok terms =>
      exact .inr ⟨terms, rfl, exceededBy_length_asks hparse, map_bounds_draws_of_parse hparse s⟩

/-- A session in which too many dice are asked for, and a die is not in range and divided by. -/
theorem draws_exactly_what_terms_ask_scripted :
    (∀ entry ∈ [("/r 2d6", true), ("/r 11d6", false), ("/r 1d6 / 1d4 + 1d8", true)],
      entry.2 = false →
        ∃ failure, Command.parse (.whole 10) entry.1.toList = .error failure) ∧
      draws (.scripted #[3, 0]) (.whole 10) "/r 1d6 / 1d4 + 1d8" 0 = [⟨1, 6, 3⟩, ⟨1, 4, 0⟩] ∧
      (((session (Generator.scripted #[3, 0]).recorded (.whole 10)
          ["/r 2d6", "/r 11d6", "/r 1d6 / 1d4 + 1d8"] (0, [])).zip
          [true, false, true]).filter Prod.snd).map Prod.fst =
        session (Generator.scripted #[3, 0]).recorded (.whole 10)
          ["/r 2d6", "/r 1d6 / 1d4 + 1d8"] (0, []) := by
  have hstruck : ∀ entry ∈ [("/r 2d6", true), ("/r 11d6", false), ("/r 1d6 / 1d4 + 1d8", true)],
      entry.2 = false →
        ∃ failure, Command.parse (.whole 10) entry.1.toList = .error failure := by
    intro entry hmem hfalse
    simp only [List.mem_cons, List.not_mem_nil, or_false] at hmem
    rcases hmem with rfl | rfl | rfl
    · cases hfalse
    · exact ⟨_, Command.parse_eq_error_iff.mpr ⟨.tooManyDice (.whole 10), rfl, rfl⟩⟩
    · cases hfalse
  obtain ⟨-, hsession⟩ := draws_exactly_what_terms_ask (.scripted #[3, 0]) (.whole 10)
  exact ⟨hstruck, by decide +kernel, hsession _ hstruck 0 []⟩

end ChatDice

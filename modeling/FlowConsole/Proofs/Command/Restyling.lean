import FlowConsole.Proofs.Command.Authorization
import FlowConsole.Proofs.Command.Lockstep
import FlowConsole.Proofs.Command.Plan
/-!
Command lines that say differently how results are shown.

A format or a choice of colours may be exchanged for another wherever it stands: the command line is
accepted or refused as before, and the run ends alike and does the same. A switch for quiet runs, or
a choice of colours, may be left out of a command line that is accepted. It may not always be put
into one that is: a flag makes the program look at the value in front of it, which without the flag
waits for the end of the command and is never looked at if a command inside asks for help.
-/
namespace FlowConsole.Command

/-! ## Ways of writing a value -/

/-- A flag for how results are shown, with a value that it can have. -/
inductive Flag.Shows : Flag → String → Prop
  | format (x : Report.Format) : Shows .output x.name
  | color (x : Color) : Shows .color x.name

/-- Letters of switches and behind them that of a flag. -/
structure Letters (f : Flag) where
  switches : List Char
  letter : Char
  isSwitch : ∀ c ∈ switches, Flag.IsSwitchLetter c
  isLetter : f.short? = some letter

def Letters.text {f : Flag} (l : Letters f) : String :=
  String.ofList ('-' :: (l.switches ++ [l.letter]))

/-- How a flag is written with its value: by name or by letter, the value in a word of its own or in
the same. -/
inductive Way (f : Flag)
  | name
  | nameEquals
  | letters (l : Letters f)
  | lettersJoined (l : Letters f)
  | lettersEquals (l : Letters f)

namespace Way

variable {f : Flag}

def switches : Way f → List Char
  | name => []
  | nameEquals => []
  | letters l => l.switches
  | lettersJoined l => l.switches
  | lettersEquals l => l.switches

def word (text : String) : Way f → String
  | name => "--" ++ f.long
  | nameEquals => "--" ++ f.long ++ "=" ++ text
  | letters l => l.text
  | lettersJoined l => l.text ++ text
  | lettersEquals l => l.text ++ "=" ++ text

def isJoined : Way f → Bool
  | name => false
  | letters _ => false
  | _ => true

def words (w : Way f) (text : String) : List String :=
  if w.isJoined then [w.word text] else [w.word text, text]

theorem isDashed_word (w : Way f) (text : String) : IsDashed (w.word text) := by
  cases w <;> simp [IsDashed, word, Letters.text]

end Way

namespace Flag.Shows

variable {f : Flag} {text text' : String} (h : f.Shows text)
include h

theorem ne_force : f ≠ .force := by
  cases h <;> decide

theorem takesValue : f.takesValue = true := by
  cases h <;> rfl

/-- No such value begins like a flag or like an attached value. -/
theorem plain : ∃ c rest, text.toList = c :: rest ∧ c ≠ '-' ∧ c ≠ '=' := by
  cases h with
  | format x => cases x <;> exact ⟨_, _, rfl, by decide, by decide⟩
  | color x => cases x <;> exact ⟨_, _, rfl, by decide, by decide⟩

/-- The value is accepted, and another in its place makes no difference to what is left. -/
theorem read_blank (h' : f.Shows text') : ∃ value value', f.read text = .ok value ∧
    f.read text' = .ok value' ∧ (f.isStyle = true ∨ value.blank = value'.blank) := by
  have hformat : ∀ x : Report.Format, Flag.output.read x.name = .ok (.format x) := by
    intro x
    cases x <;> rfl
  have hcolor : ∀ x : Color, Flag.color.read x.name = .ok (.color x) := by
    intro x
    cases x <;> rfl
  cases h with
  | format x => cases h' with | format x' => exact ⟨_, _, hformat x, hformat x', .inr rfl⟩
  | color x => cases h' with | color x' => exact ⟨_, _, hcolor x, hcolor x', .inl rfl⟩

end Flag.Shows

namespace Arguments

open Progress

/-! ## Reading a value -/

theorem readCommand_dashed (environment : Environment) (isProgram : Bool) {s : Grammar}
    {word : String} (hs : s.Spares word) (p : Progress) (rest : List String) :
    readCommand environment isProgram s p (word :: rest) =
      enter s word p >>= fun q => readCommand environment isProgram s q rest := by
  rw [readCommand, if_neg (by simp [hs.names_eq])]

theorem readCommand_value (environment : Environment) (isProgram : Bool) (s : Grammar) {f : Flag}
    {text : String} (h : f.Shows text) {p : Progress} (hp : p.operandsOnly = false)
    (rest : List String) :
    readCommand environment isProgram s { p with pending := some (.flag f none) } (text :: rest) =
      readCommand environment isProgram s { p with pending := some (.flag f (some text)) }
        rest := by
  obtain ⟨c, tail, htext, hhyphen, -⟩ := h.plain
  have henter : enter s text { p with pending := some (.flag f none) } =
      .ok { p with pending := some (.flag f (some text)) } := by
    unfold enter
    rw [if_neg (by simp [hp]), htext]
    split
    · simp_all
    · simp_all
    · simp_all
    · simp [enterWord, hp]
  rw [readCommand, if_neg (by simp [waits]), henter]
  rfl

section

variable (s : Grammar) {f : Flag} {text text' : String} (h : f.Shows text)

/-- What comes of a flag and its value: all before them has been looked at, and the value too if it
is in the word of the flag. -/
def enterWay (w : Way f) (text : String) (p : Progress) : Except UsageError Progress := do
  let p ← enterShort s w.switches p
  let p ← resolve s p
  if w.isJoined then
    let given ← takeValue f (some text) p.given
    .ok { p with given }
  else .ok { p with pending := some (.flag f (some text)) }

def attachedTo (w : Way f) (text : String) : Option (List Char) :=
  if w.isJoined then some text.toList else none

include h

theorem enter_word (w : Way f) {p : Progress} (hp : p.operandsOnly = false) :
    enter s (w.word text) p =
      enterShort s w.switches p >>= enterValue s f (attachedTo w text) := by
  have hforce := h.ne_force
  have hvalue := h.takesValue
  obtain ⟨c, tail, htext, -, hequals⟩ := h.plain
  have hletters : ∀ (l : Letters f) (rest : List Char) {word : String},
      word.toList = '-' :: (l.switches ++ l.letter :: rest) →
        enter s word p = enterShort s l.switches p >>= enterValue s f (valueBehind rest) := by
    intro l rest word hword
    have hletter := Flag.ofShort?_letter l.isLetter
    rw [enter_cluster s l.isSwitch hletter hword hp]
    cases enterShort s l.switches p with
    | error e => rfl
    | ok q => exact enterShort_value s hletter hvalue rest q
  cases w with
  | name =>
      rw [Way.word, enter_dashes s (by simp) f.long_ne_nil hp, enterLong_alone s hforce,
        if_pos hvalue]
      rfl
  | nameEquals =>
      have hword : ((Way.nameEquals (f := f)).word text).toList =
          '-' :: '-' :: (f.long.toList ++ '=' :: text.toList) := by
        simp [Way.word]
      rw [enter_dashes s hword (by simp) hp, enterLong_equals s hforce hvalue]
      rfl
  | letters l => exact hletters l [] (by simp [Way.word, Letters.text])
  | lettersJoined l =>
      have hjoined : attachedTo (.lettersJoined l) text = some (c :: tail) := by
        rw [← htext]
        rfl
      rw [hletters l (c :: tail) (by simp [Way.word, Letters.text, htext]), hjoined,
        valueBehind_cons hequals]
      rfl
  | lettersEquals l => exact hletters l ('=' :: text.toList) (by simp [Way.word, Letters.text])

theorem readCommand_way (environment : Environment) (isProgram : Bool)
    (hs : ∀ word, IsDashed word → s.Spares word) (w : Way f) {p : Progress}
    (hp : p.operandsOnly = false) (back : List String) :
    readCommand environment isProgram s p (w.words text ++ back) =
      enterWay s w text p >>= fun q => readCommand environment isProgram s q back := by
  have hword : ∀ rest, readCommand environment isProgram s p (w.word text :: rest) =
      (do
        let q ← enterShort s w.switches p
        let q ← enterValue s f (attachedTo w text) q
        readCommand environment isProgram s q rest) := by
    intro rest
    rw [readCommand_dashed environment isProgram (hs _ (w.isDashed_word text)),
      enter_word s h w hp, bind_assoc]
  unfold Way.words
  cases hjoined : w.isJoined with
  | true =>
      rw [if_pos rfl, List.singleton_append, hword]
      simp only [enterWay, enterValue, attachedTo, hjoined, if_pos, bind_assoc,
        String.ofList_toList]
  | false =>
      rw [if_neg (by simp), List.cons_append, List.singleton_append, hword]
      simp only [enterWay, enterValue, attachedTo, hjoined, bind_assoc]
      refine (enterShort_keeps s w.switches p).bind_congr fun q hq => ?_
      refine (resolve_keeps s q).bind_congr fun r hr => ?_
      have hr : r.operandsOnly = false := (hr.operandsOnly.trans hq.operandsOnly).trans hp
      exact readCommand_value environment isProgram s h hr back

end

/-! ## What may be exchanged or left out -/

section

variable {strict : Prop} (s : Grammar) {f : Flag} {text text' : String}

theorem takeValue_shows (h : f.Shows text) (h' : f.Shows text') (g : Given) :
    Tracks strict (Given.Alike strict) (takeValue f (some text) g)
      (takeValue f (some text') g) := by
  obtain ⟨value, value', hv, hv', hblank⟩ := h.read_blank h'
  refine once_tracks f (.refl g) ?_
  rw [hv, hv']
  exact .ok (Given.alike_set g hblank _)

theorem enterWay_tracks (h : f.Shows text) (h' : f.Shows text') (w : Way f) (p : Progress) :
    Tracks strict (Progress.Alike strict s) (enterWay s w text p) (enterWay s w text' p) := by
  unfold enterWay
  refine (tracks_refl (fun _ => rfl) (enterShort s w.switches p)).bind ?_
  rintro q _ rfl
  refine (tracks_refl (fun _ => rfl) (resolve s q)).bind ?_
  rintro r _ rfl
  split
  · exact (takeValue_shows h h' r.given).bind fun given given' hgiven =>
      .ok (Level.alike s ⟨hgiven, rfl, rfl, rfl⟩)
  · refine .ok ⟨rfl, rfl, rfl, fun hwaits => by simp [waits] at hwaits, ?_⟩
    exact (takeValue_shows h h' r.given).bind fun given given' hgiven => .ok ⟨hgiven, rfl, rfl, rfl⟩

/-- Once what is pending has been looked at, nothing waits, and an operand is still an operand. -/
theorem resolve_settles (p : Progress) :
    Yields (resolve s p) fun q =>
      q.pending = none ∧ hasOperand q = hasOperand p ∧ waits p = false := by
  obtain ⟨given, pending, operand, operandsOnly⟩ := p
  rcases pending with _ | ⟨f, value⟩ | text
  · exact yields_ok ⟨rfl, rfl, rfl⟩
  · cases value with
    | none => exact yields_error _
    | some text => exact yields_bind fun given => yields_ok ⟨rfl, rfl, rfl⟩
  · cases s with
    | onShell c =>
        unfold resolve
        dsimp only
        split
        · exact yields_ok ⟨rfl, rfl, rfl⟩
        · exact yields_error _
    | command c | onRecord c | initialise | group entries => exact yields_ok ⟨rfl, rfl, rfl⟩

/-- A state is like one in which less has been looked at, if nothing waits in it and what it comes
to is like what the other comes to. -/
theorem alike_of_resolve {p q q' : Progress} (h : resolve s p = .ok q)
    (hoperands : q'.operandsOnly = q.operandsOnly) (hoperand : hasOperand q' = hasOperand q)
    (hwaits : waits q' = false)
    (hresolved : Tracks strict (Level strict) (resolve s q') (.ok q)) :
    q'.Alike strict s p := by
  obtain ⟨-, hkeepsOperand, hsettled⟩ := resolve_settles s p q h
  refine ⟨hoperands.trans (resolve_keeps s p q h).operandsOnly, hoperand.trans hkeepsOperand,
    hwaits.trans hsettled.symm, fun hwaiting => by simp [hwaits] at hwaiting, ?_⟩
  rw [h]
  exact hresolved

theorem alike_with_given {p q : Progress} (h : resolve s p = .ok q) {given : Given}
    (hgiven : given.Alike strict q.given) : Progress.Alike strict s { q with given } p := by
  obtain ⟨hpending, -⟩ := resolve_settles s p q h
  refine alike_of_resolve s h rfl rfl (by simp [waits, hpending]) ?_
  simp only [resolve, hpending]
  exact .ok ⟨hgiven, hpending.symm, rfl, rfl⟩

theorem enterSwitch_quiet (p : Progress) :
    Yields (enterSwitch s .quiet p) fun q => q.Alike False s p := by
  have htaken : ∀ g : Given, Yields (takeSwitch .quiet g) fun given => given.Alike False g := by
    intro g
    dsimp only [takeSwitch]
    split
    · exact yields_error _
    · exact yields_ok (Given.alike_set_self g rfl _ _)
  have hresolved : Yields (resolve s p) fun q => resolve s p = .ok q := fun _ hq => hq
  unfold enterSwitch
  refine hresolved.bind fun q hq => ?_
  exact (htaken q.given).bind fun given hgiven => yields_ok (alike_with_given s hq hgiven)

theorem enterWay_color (h : Flag.color.Shows text) (w : Way .color) (p : Progress) :
    Yields (enterWay s w text p) fun q => q.Alike False s p := by
  -- the flag has no letter, so no other switch is in its word
  have hletters : ∀ l : Letters .color, False := fun l => by cases l.isLetter
  have hswitches : w.switches = [] := by
    cases w with
    | name | nameEquals => rfl
    | letters l | lettersJoined l | lettersEquals l => exact (hletters l).elim
  have htaken : ∀ g : Given, Yields (takeValue .color (some text) g) fun given =>
      given.Alike False g := by
    intro g
    obtain ⟨value, -, hvalue, -⟩ := h.read_blank h
    dsimp only [takeValue]
    rw [hvalue]
    split
    · exact yields_error _
    · exact yields_ok (Given.alike_set_self g rfl _ _)
  have hresolved : Yields (resolve s p) fun q => resolve s p = .ok q := fun _ hq => hq
  unfold enterWay
  rw [hswitches]
  refine hresolved.bind fun q hq => ?_
  split
  · exact (htaken q.given).bind fun given hgiven => yields_ok (alike_with_given s hq hgiven)
  · obtain ⟨hpending, -⟩ := resolve_settles s p q hq
    refine yields_ok (alike_of_resolve s hq rfl (by simp [hasOperand, hpending]) rfl ?_)
    exact ((htaken q.given).bind fun given hgiven =>
      yields_ok ⟨hgiven, hpending.symm, rfl, rfl⟩).tracks

end

end Arguments

/-! ## Command lines -/

/-- A piece of a command line and what may stand in its place: another value, where it is strict, or
else less. -/
inductive Restyles (strict : Prop) : List String → List String → Prop
  | value {f : Flag} (w : Way f) {text text' : String} (h : f.Shows text) (h' : f.Shows text') :
      Restyles strict (w.words text) (w.words text')
  | color (w : Way .color) {text : String} (h : Flag.color.Shows text) (hloose : ¬ strict) :
      Restyles strict (w.words text) []
  | quiet {word : String} {rest : List String} (h : WithSwitch .quiet word rest)
      (hloose : ¬ strict) : Restyles strict [word] rest

theorem Grammar.Spares.help_eq {s : Grammar} {word : String} (hs : s.Spares word)
    (rest : List String) : s.help (word :: rest) = .unknownCommand := by
  have hnames := hs.names_eq
  unfold names at hnames
  cases hgroup : s.isGroup with
  | true =>
      rw [hgroup, Bool.true_and, Bool.or_eq_false_iff] at hnames
      obtain ⟨hhelp, hchild⟩ := hnames
      rw [Option.isSome_eq_false_iff, Option.isNone_iff_eq_none] at hchild
      simp [help, hchild, hhelp]
  | false =>
      have hchild : s.child? word = none := by
        cases s <;> first | rfl | cases hgroup
      simp [help, hchild, hgroup]

/-- What asking for help comes to does not depend on a word that names nothing, nor on what follows
it. -/
theorem Grammar.help_append {word word' : String} (front back back' : List String) {s : Grammar}
    (hs : s.Spares word) (hs' : s.Spares word') :
    s.help (front ++ word :: back) = s.help (front ++ word' :: back') := by
  induction front generalizing s with
  | nil => rw [List.nil_append, List.nil_append, hs.help_eq, hs'.help_eq]
  | cons name front ih =>
      rw [List.cons_append, List.cons_append, help, help]
      split
      · rename_i hchild
        exact ih (hs.child hchild) (hs'.child hchild)
      · simp

namespace Arguments

open Progress

variable {strict : Prop} {old new : List String} (h : Restyles strict old new)
  (environment : Environment)
include h

theorem help_restyles (hstrict : strict) (front back : List String) {s : Grammar}
    (hs : ∀ word, IsDashed word → s.Spares word) :
    s.help (front ++ (old ++ back)) = s.help (front ++ (new ++ back)) := by
  cases h with
  | color w h hloose => exact absurd hstrict hloose
  | quiet h hloose => exact absurd hstrict hloose
  | @value f w text text' h h' =>
      have hfirst : ∀ text, ∃ rest, w.words text ++ back = w.word text :: rest := by
        intro text
        unfold Way.words
        split <;> exact ⟨_, rfl⟩
      obtain ⟨rest, hrest⟩ := hfirst text
      obtain ⟨rest', hrest'⟩ := hfirst text'
      rw [hrest, hrest']
      exact Grammar.help_append front rest rest' (hs _ (w.isDashed_word text))
        (hs _ (w.isDashed_word text'))

theorem readCommand_piece (isProgram : Bool) {s : Grammar}
    (hs : ∀ word, IsDashed word → s.Spares word) {p : Progress} (hp : p.operandsOnly = false)
    (back : List String) :
    Tracks strict (Reading.Alike strict) (readCommand environment isProgram s p (old ++ back))
      (readCommand environment isProgram s p (new ++ back)) := by
  have hrest : ∀ {x x' : Except UsageError Progress},
      Tracks strict (Progress.Alike strict s) x x' → Tracks strict (Reading.Alike strict)
        (x >>= fun q => readCommand environment isProgram s q back)
        (x' >>= fun q => readCommand environment isProgram s q back) :=
    fun hx => hx.bind fun _ _ hq => readCommand_tracks environment back isProgram hq
  cases h with
  | value w h h' =>
      rw [readCommand_way s h environment isProgram hs w hp,
        readCommand_way s h' environment isProgram hs w hp]
      exact hrest (enterWay_tracks s h h' w p)
  | color w h hloose =>
      obtain rfl := eq_false hloose
      rw [readCommand_way s h environment isProgram hs w hp]
      have hstart : Tracks False (Progress.Alike False s) (enterWay s w _ p) (.ok p) :=
        (enterWay_color s h w p).tracks
      exact hrest hstart
  | @quiet word rest h hloose =>
      obtain rfl := eq_false hloose
      have hword := readCommand_dashed environment isProgram
        (hs word (withSwitch_isDashed h)) p back
      have hquiet : ∀ q, Tracks False (Progress.Alike False s) (enterSwitch s .quiet q) (.ok q) :=
        fun q => (enterSwitch_quiet s q).tracks
      rw [List.singleton_append, hword]
      cases h with
      | name =>
          rw [enter_name s (by decide) rfl hp]
          exact hrest (hquiet p)
      | letter hc =>
          rw [enter_letter s rfl hp hc]
          exact hrest (hquiet p)
      | @among c hc before after hbefore first hfirst hne =>
          rw [List.singleton_append,
            readCommand_dashed environment isProgram (hs _ (by simp [IsDashed])),
            enter_among s rfl hp hc hbefore, enter_letters s (by simp) hfirst hne hp,
            enterShort_append s hbefore]
          refine hrest ((tracks_refl (fun _ => rfl) (enterShort s before p)).bind ?_)
          rintro q _ rfl
          exact (hquiet q).bind fun _ _ hq => enterShort_tracks after hq

theorem readCommand_restyles (isProgram : Bool) {front : List String} (hfront : "--" ∉ front)
    (back : List String) {s : Grammar} (hs : ∀ word, IsDashed word → s.Spares word) {p : Progress}
    (hp : p.operandsOnly = false) :
    Tracks strict (Reading.Alike strict)
      (readCommand environment isProgram s p (front ++ (old ++ back)))
      (readCommand environment isProgram s p (front ++ (new ++ back))) := by
  -- the words in front of the piece are the same, and so is what has been read of the command that
  -- they are given to; only what comes of a command inside differs
  induction front generalizing isProgram s p with
  | nil => exact readCommand_piece h environment isProgram hs hp back
  | cons word front ih =>
      obtain ⟨hword, hfront⟩ := not_or.mp (List.mem_cons.not.mp hfront)
      rw [List.cons_append, List.cons_append]
      unfold readCommand
      split
      · split
        · rename_i proper inner hchild
          have hinner := ih false hfront (fun word hword => (hs word hword).child hchild)
            (p := .start) rfl
          exact (hinner.mapError _).bind fun r r' hr =>
            finish_tracks environment isProgram (.refl s p) (.some hr)
        · refine .error _ fun hstrict => ?_
          rw [help_restyles h hstrict front back hs]
      · cases hq : enter s word p with
        | error e => exact tracks_error e
        | ok q =>
            obtain ⟨hoperands, -⟩ := enter_keeps s word p q hq
            exact ih isProgram hfront hs ((hoperands (Ne.symm hword)).trans hp)

theorem parse_restyles {front : List String} (hfront : "--" ∉ front) (back : List String) :
    Tracks strict (fun a a' => a.options.work = a'.options.work ∧ a.command = a'.command)
      (parse environment (front ++ old ++ back)) (parse environment (front ++ new ++ back)) := by
  rw [List.append_assoc, List.append_assoc]
  refine (readCommand_restyles h environment true hfront back
    (fun word hword => Grammar.program_spares hword) (p := .start) rfl).bind fun r r' hr => ?_
  exact .ok ⟨hr.given.options, hr.command⟩

end Arguments

/-! ## Whole runs -/

/-- A run from the words of its command line: the exit code, and what the run has changed. -/
def runWords (s : Surroundings) (words : List String) (e : Effects) : Nat × Effects :=
  match Arguments.parse s.environment words with
  | .error problem => (problem.exitCode, { e with output := e.output ++ problem.output })
  | .ok a => (endCode Error.exitCode (a.run s e).1, (a.run s e).2)

/-- Whether two runs end with one exit code and have left the same files and the same controller,
which has seen the same requests. -/
structure SameOutcome (r r' : Nat × Effects) : Prop where
  code : r.1 = r'.1
  work : r.2.SameWork r'.2

theorem Arguments.run_sameOutcome {a a' : Arguments} (hoptions : a.options.work = a'.options.work)
    (hcommand : a.command = a'.command) (s : Surroundings) (e : Effects) :
    SameOutcome (endCode Error.exitCode (a.run s e).1, (a.run s e).2)
      (endCode Error.exitCode (a'.run s e).1, (a'.run s e).2) := by
  obtain ⟨hresult, hwork⟩ :=
    Running.command_sameWork hoptions s (a.command.getD .menu) e e (.refl e)
  unfold Arguments.run
  rw [← hcommand, hresult.eq]
  exact ⟨rfl, hwork⟩

theorem runWords_restyles {strict : Prop} {old new front : List String}
    (h : Restyles strict old new) (hfront : "--" ∉ front) (back : List String) {s : Surroundings}
    (haccepted : ¬ strict → (Arguments.parse s.environment (front ++ old ++ back)).isOk = true)
    (e : Effects) :
    SameOutcome (runWords s (front ++ old ++ back) e) (runWords s (front ++ new ++ back) e) := by
  have hparse := Arguments.parse_restyles h s.environment hfront back
  unfold runWords
  generalize Arguments.parse s.environment (front ++ old ++ back) = x at hparse haccepted
  generalize Arguments.parse s.environment (front ++ new ++ back) = x' at hparse
  cases hparse with
  | ok ha => exact Arguments.run_sameOutcome ha.1 ha.2 s e
  | error problem hsame =>
      have hstrict : strict := by
        by_contra hloose
        exact absurd (haccepted hloose) (by simp [Except.isOk, Except.toBool])
      rw [hsame hstrict]
      exact ⟨rfl, rfl, rfl⟩

/-- How results are shown does not matter to what is done. Exchanging a format or a choice of
colours changes neither exit code nor work, and where a command line is accepted, nor does leaving
out a switch for quiet runs or a choice of colours. A quiet run of a command that only prints a
result prints nothing. -/
theorem runWords_presentation (s : Surroundings) (e : Effects) :
    (∀ {old new : List String}, Restyles True old new → ∀ front back, "--" ∉ front →
      SameOutcome (runWords s (front ++ old ++ back) e) (runWords s (front ++ new ++ back) e)) ∧
    (∀ {old new : List String}, Restyles False old new → ∀ front back, "--" ∉ front →
      (Arguments.parse s.environment (front ++ old ++ back)).isOk = true →
        SameOutcome (runWords s (front ++ old ++ back) e)
          (runWords s (front ++ new ++ back) e)) ∧
    ∀ (words : List String) {a : Arguments}, Arguments.parse s.environment words = .ok a →
      ∀ {word : String} {rest : List String}, WithSwitch .quiet word rest →
        word ∈ words.takeWhile (· != "--") → (a.command.getD .menu).IsSilenceable →
          (runWords s words e).2.output = e.output := by
  refine ⟨fun h front back hfront => ?_, fun h front back hfront hok => ?_,
    fun words _ h _ _ hword hmem hc => ?_⟩
  · exact runWords_restyles h hfront back (fun hloose => absurd trivial hloose) e
  · exact runWords_restyles h hfront back (fun _ => hok) e
  · unfold runWords
    rw [h]
    exact Running.command_silent s (Arguments.quiet_of_mem h hword hmem) hc e

theorem quietTopology_sameOutcome :
    SameOutcome (runWords bareSurroundings ["--output", "json", "topology"] bareStart)
        (runWords bareSurroundings ["--output", "json-compact", "topology"] bareStart) ∧
      SameOutcome (runWords bareSurroundings ["topology", "-qy"] bareStart)
        (runWords bareSurroundings ["topology", "-y"] bareStart) ∧
      (runWords bareSurroundings ["topology", "--quiet"] bareStart).2.output =
        bareStart.output := by
  obtain ⟨hvalue, hless, hsilent⟩ := runWords_presentation bareSurroundings bareStart
  have hformats : Restyles True ["--output", "json"] ["--output", "json-compact"] :=
    .value .name (.format .json) (.format .compact)
  have hquiet : WithSwitch .quiet "-qy" ["-y"] :=
    @WithSwitch.among .quiet 'q' rfl [] ['y'] (by simp) 'y' rfl (by decide)
  refine ⟨?_, ?_, ?_⟩
  · exact hvalue hformats [] ["topology"] (by simp)
  · exact hless (.quiet hquiet id) ["topology"] [] (by decide) rfl
  · exact hsilent ["topology", "--quiet"] rfl .name (by decide) .topology

/-- With the switch the program looks at a time that is none; without it, it is asked for help
first. -/
theorem quiet_exitCode :
    WithSwitch .quiet "--quiet" [] ∧
      (runWords bareSurroundings ["--timeout", "x", "--quiet", "topology", "--help"]
        bareStart).1 = 2 ∧
      (runWords bareSurroundings ["--timeout", "x", "topology", "--help"] bareStart).1 = 0 :=
  ⟨.name, rfl, rfl⟩

end FlowConsole.Command

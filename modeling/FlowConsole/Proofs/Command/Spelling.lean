import Mathlib.Data.List.TakeWhile
import FlowConsole.Proofs.Command.Arguments
/-!
How flags are written.

A flag goes by its name after two hyphens, or by its letter after one. Letters of switches may stand
together, and in front of a letter that takes a value. No command goes by a word that begins with a
hyphen, so a switch counts wherever it stands in front of two hyphens alone: on the program or on a
command inside it.
-/
namespace FlowConsole.Command

def IsDashed (word : String) : Prop := word.toList.head? = some '-'

theorem Grammar.program_spares {word : String} (hword : IsDashed word) :
    Grammar.program.Spares word := by
  have hother : ∀ {name : String}, name.toList.head? ≠ some '-' → word ≠ name := by
    rintro name hname rfl
    exact hname hword
  have hhelp : word ≠ helpName := hother (by decide)
  have hsingle : ∀ {s : Grammar}, s.isGroup = false → s.Spares word := .single
  have hgroup : ∀ {entries : List (List String × Grammar)},
      (∀ e ∈ entries, ∀ name ∈ e.1, name.toList.head? ≠ some '-') →
        (∀ e ∈ entries, e.2.Spares word) → (Grammar.group entries).Spares word :=
    fun hnames hinner => .group (by simpa using hhelp)
      (fun e he hmem => hother (hnames e he word hmem) rfl) hinner
  have hsingles : ∀ {entries : List (List String × Grammar)},
      (∀ e ∈ entries, ∀ name ∈ e.1, name.toList.head? ≠ some '-') →
        (∀ e ∈ entries, e.2.isGroup = false) → (Grammar.group entries).Spares word :=
    fun hnames hinner => hgroup hnames fun e he => .single (hinner e he)
  refine hgroup (by decide) ?_
  simp only [List.forall_mem_cons]
  exact ⟨hsingle rfl, hsingle rfl, hsingles (by decide) (by decide), hsingle rfl,
    hsingles (by decide) (by decide), hsingles (by decide) (by decide),
    hsingles (by decide) (by decide), hsingle rfl, by simp⟩

namespace Flag

theorem long_ne (f : Flag) : ∀ c ∈ f.long.toList, c ≠ '=' := by
  have hall : f.long.toList.all (· != '=') = true := by
    cases f <;> rfl
  simpa using hall

theorem long_ne_nil (f : Flag) : f.long.toList ≠ [] := by
  cases f <;> decide

theorem ofLong?_long (s : Grammar) {f : Flag} (hf : f ≠ .force) :
    ofLong? s.flags f.long.toList = some f := by
  cases s <;> cases f <;> first | rfl | exact absurd rfl hf

theorem ofShort?_flags (s : Grammar) (c : Char) : ofShort? s.flags c = ofShort? everywhere c := by
  cases s <;> simp [ofShort?, Grammar.flags, short?]

theorem ofShort?_letter {f : Flag} {c : Char} (h : f.short? = some c) :
    ofShort? everywhere c = some f := by
  cases f <;> first | (obtain rfl := Option.some.inj h; rfl) | cases h

def IsSwitchLetter (c : Char) : Prop := ∃ f, ofShort? everywhere c = some f ∧ f.takesValue = false

theorem ne_of_ofShort? {f : Flag} {c : Char} (h : ofShort? everywhere c = some f) : c ≠ '-' := by
  rintro rfl
  cases h

end Flag

namespace Arguments

section

variable (s : Grammar) {f : Flag} {word : String} {p : Progress}

/-! ## Names -/

theorem enter_dashes {text : List Char} (hword : word.toList = '-' :: '-' :: text)
    (htext : text ≠ []) (hp : p.operandsOnly = false) : enter s word p = enterLong s text p := by
  unfold enter
  rw [if_neg (by simp [hp]), hword]
  cases text with
  | nil => exact absurd rfl htext
  | cons c rest => rfl

theorem enterLong_alone (hf : f ≠ .force) (p : Progress) :
    enterLong s f.long.toList p =
      if f.takesValue then enterValue s f none p else enterSwitch s f p := by
  have htake : f.long.toList.takeWhile (· != '=') = f.long.toList :=
    List.takeWhile_eq_self_iff.mpr fun c hc => by simpa using f.long_ne c hc
  unfold enterLong
  simp [htake, Flag.ofLong?_long s hf]

theorem enterLong_equals (hf : f ≠ .force) (hvalue : f.takesValue = true) (text : List Char)
    (p : Progress) :
    enterLong s (f.long.toList ++ '=' :: text) p = enterValue s f (some text) p := by
  have htake : (f.long.toList ++ '=' :: text).takeWhile (· != '=') = f.long.toList := by
    rw [List.takeWhile_append_of_pos fun c hc => by simpa using f.long_ne c hc]
    simp
  unfold enterLong
  simp [htake, Flag.ofLong?_long s hf, hvalue]

/-! ## Letters -/

theorem enter_letters {letters : List Char} (hword : word.toList = '-' :: letters) {first : Char}
    (hfirst : letters.head? = some first) (hne : first ≠ '-') (hp : p.operandsOnly = false) :
    enter s word p = enterShort s letters p := by
  obtain ⟨rest, rfl⟩ := List.head?_eq_some_iff.mp hfirst
  unfold enter
  rw [if_neg (by simp [hp]), hword]
  split
  · simp_all
  · simp_all
  · rename_i heq
    rw [(List.cons.inj heq).2]
  · simp_all

theorem enterShort_switch {c : Char} (hletter : Flag.ofShort? Flag.everywhere c = some f)
    (hswitch : f.takesValue = false) (text : List Char) (p : Progress) :
    enterShort s (c :: text) p = enterSwitch s f p >>= enterShort s text := by
  unfold enterShort
  rw [Flag.ofShort?_flags, hletter]
  dsimp only
  rw [if_neg (by simp [hswitch])]

/-- The value that what follows a letter is, if it is not in a word of its own. -/
def valueBehind : List Char → Option (List Char)
  | [] => none
  | '=' :: value => some value
  | value => some value

theorem valueBehind_cons {c : Char} (hc : c ≠ '=') (rest : List Char) :
    valueBehind (c :: rest) = some (c :: rest) := by
  unfold valueBehind
  split <;> simp_all

theorem enterShort_value {c : Char} (hletter : Flag.ofShort? Flag.everywhere c = some f)
    (hvalue : f.takesValue = true) (text : List Char) (p : Progress) :
    enterShort s (c :: text) p = enterValue s f (valueBehind text) p := by
  unfold enterShort
  rw [Flag.ofShort?_flags, hletter]
  exact if_pos hvalue

theorem enterShort_append {letters : List Char} (h : ∀ c ∈ letters, Flag.IsSwitchLetter c)
    (text : List Char) (p : Progress) :
    enterShort s (letters ++ text) p = enterShort s letters p >>= enterShort s text := by
  induction letters generalizing p with
  | nil => rfl
  | cons c letters ih =>
      obtain ⟨⟨f, hletter, hswitch⟩, hrest⟩ := List.forall_mem_cons.mp h
      rw [List.cons_append, enterShort_switch s hletter hswitch,
        enterShort_switch s hletter hswitch]
      cases enterSwitch s f p with
      | error e => rfl
      | ok q => exact ih hrest q

theorem enter_cluster {front : List Char} (hfront : ∀ c ∈ front, Flag.IsSwitchLetter c) {c : Char}
    (hletter : Flag.ofShort? Flag.everywhere c = some f) {back : List Char}
    (hword : word.toList = '-' :: (front ++ c :: back)) (hp : p.operandsOnly = false) :
    enter s word p = enterShort s front p >>= enterShort s (c :: back) := by
  have hfirst : ∃ first, (front ++ c :: back).head? = some first ∧ first ≠ '-' := by
    cases front with
    | nil => exact ⟨c, rfl, Flag.ne_of_ofShort? hletter⟩
    | cons c' front =>
        obtain ⟨f', hf', -⟩ := hfront c' (by simp)
        exact ⟨c', rfl, Flag.ne_of_ofShort? hf'⟩
  obtain ⟨first, hfirst, hne⟩ := hfirst
  rw [enter_letters s hword hfirst hne hp, enterShort_append s hfront]

end

end Arguments

/-! ## Switches -/

/-- A word that has a switch in it, by name or by letter, and what is left of the word without the
switch. -/
inductive WithSwitch (f : Flag) : String → List String → Prop
  | name : WithSwitch f ("--" ++ f.long) []
  | letter {c : Char} (hc : f.short? = some c) : WithSwitch f (String.ofList ['-', c]) []
  | among {c : Char} (hc : f.short? = some c) {front back : List Char}
      (hfront : ∀ c ∈ front, Flag.IsSwitchLetter c) {first : Char}
      (hfirst : (front ++ back).head? = some first) (hne : first ≠ '-') :
      WithSwitch f (String.ofList ('-' :: (front ++ c :: back)))
        [String.ofList ('-' :: (front ++ back))]

namespace Arguments

section

variable (s : Grammar) {f : Flag} (hforce : f ≠ .force) (hswitch : f.takesValue = false)
  {p : Progress} (hp : p.operandsOnly = false)
include hswitch hp

include hforce in
theorem enter_name : enter s ("--" ++ f.long) p = enterSwitch s f p := by
  rw [enter_dashes s (by simp) f.long_ne_nil hp, enterLong_alone s hforce,
    if_neg (by simp [hswitch])]

theorem enter_among {c : Char} (hc : f.short? = some c) {front : List Char}
    (hfront : ∀ c ∈ front, Flag.IsSwitchLetter c) (back : List Char) :
    enter s (String.ofList ('-' :: (front ++ c :: back))) p =
      (do
        let q ← enterShort s front p
        let q ← enterSwitch s f q
        enterShort s back q) := by
  have hletter := Flag.ofShort?_letter hc
  have hword : (String.ofList ('-' :: (front ++ c :: back))).toList =
      '-' :: (front ++ c :: back) := String.toList_ofList
  rw [enter_cluster s hfront hletter hword hp]
  cases enterShort s front p with
  | error e => rfl
  | ok q => exact enterShort_switch s hletter hswitch back q

theorem enter_letter {c : Char} (hc : f.short? = some c) :
    enter s (String.ofList ['-', c]) p = enterSwitch s f p := by
  have hnone : ∀ c ∈ ([] : List Char), Flag.IsSwitchLetter c := by simp
  have hamong := enter_among s hswitch hp hc hnone []
  have hdone : ∀ x : Except UsageError Progress, (x >>= fun q => enterShort s [] q) = x :=
    fun x => by cases x <;> rfl
  exact hamong.trans (hdone (enterSwitch s f p))

end

theorem enterSwitch_gives (s : Grammar) (f : Flag) (p : Progress) :
    Yields (enterSwitch s f p) fun q => q.given.has f = true := by
  unfold enterSwitch
  refine yields_bind fun q => ?_
  unfold takeSwitch
  split
  · exact yields_error _
  · exact yields_error _
  · exact yields_ok (Given.has_set_self _ _ _ _)
  · split
    · exact yields_error _
    · exact yields_ok (Given.has_set_self _ _ _ _)

/-- Whether reading a word that is no operand gives a flag. -/
def Gives (word : String) (f : Flag) : Prop :=
  ∀ (s : Grammar) (p : Progress), p.operandsOnly = false →
    Yields (enter s word p) fun q => q.given.has f = true

theorem withSwitch_gives {f : Flag} (hforce : f ≠ .force) (hswitch : f.takesValue = false)
    {word : String} {rest : List String} (h : WithSwitch f word rest) : Gives word f := by
  intro s p hp
  cases h with
  | name =>
      rw [enter_name s hforce hswitch hp]
      exact enterSwitch_gives s f p
  | letter hc =>
      rw [enter_letter s hswitch hp hc]
      exact enterSwitch_gives s f p
  | @among c hc front back hfront _ _ _ =>
      rw [enter_among s hswitch hp hc hfront]
      refine yields_bind fun q => (enterSwitch_gives s f q).bind fun q' hq' => ?_
      exact (enterShort_keeps s back q').mono fun r hr => hr.given.has f hq'

theorem withSwitch_isDashed {f : Flag} {word : String} {rest : List String}
    (h : WithSwitch f word rest) : IsDashed word := by
  cases h <;> simp [IsDashed]

/-! ## A command line with a switch -/

section

variable {word : String} {f : Flag}

/-- Whether a flag has been given, or comes by a word in front of the next two hyphens. -/
def HasSwitch (word : String) (f : Flag) (p : Progress) (words : List String) : Prop :=
  p.given.has f = true ∨ p.operandsOnly = false ∧ word ∈ words.takeWhile (· != "--")

theorem mem_takeWhile_cons {first : String} {rest : List String}
    (h : word ∈ (first :: rest).takeWhile (· != "--")) :
    first ≠ "--" ∧ (first = word ∨ word ∈ rest.takeWhile (· != "--")) := by
  rw [List.takeWhile_cons] at h
  split at h
  · rename_i hfirst
    exact ⟨by simpa using hfirst, (List.mem_cons.mp h).imp_left Eq.symm⟩
  · simp at h

theorem enter_hasSwitch (hgives : Gives word f) (s : Grammar) (first : String) (p : Progress)
    (rest : List String) :
    Yields (enter s first p) fun q =>
      HasSwitch word f p (first :: rest) → HasSwitch word f q rest := by
  intro q hq h
  obtain ⟨hoperands, hgiven⟩ := enter_keeps s first p q hq
  rcases h with hbefore | ⟨hstart, hafter⟩
  · exact .inl (hgiven.has f hbefore)
  · obtain ⟨hne, rfl | hrest⟩ := mem_takeWhile_cons hafter
    · exact .inl (hgives s p hstart q hq)
    · exact .inr ⟨(hoperands hne).trans hstart, hrest⟩

variable (environment : Environment)

theorem readCommand_hasSwitch (hgives : Gives word f) (words : List String) (isProgram : Bool)
    {s : Grammar} (hs : s.Spares word) (p : Progress) :
    Yields (readCommand environment isProgram s p words) fun r =>
      HasSwitch word f p words → r.given.has f = true := by
  -- a word that names a command hands the rest to it, and it starts with nothing given
  induction words generalizing isProgram s p with
  | nil =>
      refine (finish_keeps environment isProgram s p none f).mono fun r hr h => hr ?_
      exact h.imp_right fun hmem => by simp at hmem
  | cons first rest ih =>
      unfold readCommand
      split
      · rename_i hname
        split
        · rename_i proper inner hchild
          refine ((ih false (hs.child hchild) .start).mapError _).bind fun r hr => ?_
          refine (finish_keeps environment isProgram s p (some r) f).mono ?_
          intro r' hr' h
          refine hr' (h.imp_right fun hafter => hr (.inr ⟨rfl, ?_⟩))
          refine (mem_takeWhile_cons hafter.2).2.resolve_left ?_
          rintro rfl
          simp [hs.names_eq] at hname
        · exact yields_error _
      · exact (enter_hasSwitch hgives s first p rest).bind fun q hq =>
          (ih isProgram hs q).mono fun r hr h => hr (hq h)

end

section

variable {environment : Environment} {words : List String} {a : Arguments}
  (h : parse environment words = .ok a)
include h

theorem option_of_mem {f : Flag} (hforce : f ≠ .force) (hswitch : f.takesValue = false)
    {word : String} {rest : List String} (hword : WithSwitch f word rest)
    (hmem : word ∈ words.takeWhile (· != "--")) {P : Options → Prop}
    (hP : ∀ g : Given, g.has f = true → P g.options) : P a.options := by
  have hread := readCommand_hasSwitch environment (withSwitch_gives hforce hswitch hword) words true
    (Grammar.program_spares (withSwitch_isDashed hword)) .start
  have hparse : Yields (parse environment words) fun a => P a.options := by
    unfold parse
    exact hread.bind fun r hr => yields_ok (hP r.given (hr (.inr ⟨rfl, hmem⟩)))
  exact hparse a h

/-- Wherever `--no-auth` stands in front of two hyphens, on the program or on a command inside it,
the options have no login. -/
theorem noAuth_of_mem (hmem : "--no-auth" ∈ words.takeWhile (· != "--")) :
    a.options.noAuth = true :=
  option_of_mem h (P := fun o => o.noAuth = true) (by decide) rfl (.name (f := .noAuth)) hmem
    fun _ hg => hg

theorem quiet_of_mem {word : String} {rest : List String} (hword : WithSwitch .quiet word rest)
    (hmem : word ∈ words.takeWhile (· != "--")) : a.options.quiet = true :=
  option_of_mem h (P := fun o => o.quiet = true) (by decide) rfl hword hmem fun _ hg => hg

end

end Arguments

end FlowConsole.Command

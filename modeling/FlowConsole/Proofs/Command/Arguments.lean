import FlowConsole.Command.Arguments
import FlowConsole.Proofs.Action
/-!
What reading a command line keeps.

A flag that was read is never forgotten: whatever is read after it only adds to what was given, and
putting the flags of a command and of the command inside it together loses none of them. A port is
checked wherever it comes from, and what was checked is never changed.
-/
namespace FlowConsole.Command

def Flag.Fits (f : Flag) (value : FlagValue) : Prop :=
  f = .port → ∀ n, value = .number n → n < 65536

theorem Flag.fits_read (f : Flag) (text : String) : Yields (f.read text) f.Fits := by
  by_cases hf : f = .port
  · subst hf
    unfold Flag.read
    cases hport : Flag.port? text with
    | none => exact yields_error _
    | some port =>
        refine yields_ok fun _ n hn => ?_
        obtain rfl := FlagValue.number.inj hn
        unfold Flag.port? at hport
        split at hport
        · split at hport
          · cases hport
          · obtain rfl := Option.some.inj hport
            omega
        · cases hport
  · exact fun value _ hport => absurd hport hf

namespace Given

theorem has_iff (g : Given) (f : Flag) : g.has f = true ↔ ∃ e ∈ g, f = e.1 := by
  simp [has, List.lookup_isSome_iff]

theorem has_set_self (g : Given) (f : Flag) (source : Source) (value : FlagValue) :
    (g.set f source value).has f = true :=
  (has_iff _ f).mpr ⟨(f, source, value), by simp [set], rfl⟩

theorem has_set {g : Given} {f' : Flag} (h : g.has f' = true) (f : Flag) (source : Source)
    (value : FlagValue) : (g.set f source value).has f' = true := by
  by_cases hf : f' = f
  · rw [hf]
    exact has_set_self g f source value
  · obtain ⟨e, he, hkey⟩ := (has_iff g f').mp h
    refine (has_iff _ f').mpr ⟨e, List.mem_append_left _ (List.mem_filter.mpr ⟨he, ?_⟩), hkey⟩
    rw [← hkey]
    simpa using hf

def HasPorts (g : Given) : Prop := ∀ e ∈ g, e.1.Fits e.2.2

theorem HasPorts.set {g : Given} (h : g.HasPorts) {f : Flag} {value : FlagValue}
    (hfits : f.Fits value) (source : Source) : (g.set f source value).HasPorts := by
  intro e he
  rcases List.mem_append.mp he with he | he
  · exact h e (List.mem_filter.mp he).1
  · rw [List.mem_singleton.mp he]
    exact hfits

theorem HasPorts.merge {outer inner : Given} (houter : outer.HasPorts) (hinner : inner.HasPorts) :
    (outer.merge inner).HasPorts := by
  intro e he
  rcases List.mem_append.mp he with he | he
  · exact houter e (List.mem_filter.mp he).1
  · exact hinner e (List.mem_filter.mp he).1

/-- Whether no flag and no check of a port got lost on the way from one state to another. -/
structure Keeps (before after : Given) : Prop where
  has : ∀ f, before.has f = true → after.has f = true
  ports : before.HasPorts → after.HasPorts

theorem Keeps.refl (g : Given) : g.Keeps g := ⟨fun _ h => h, fun h => h⟩

theorem Keeps.trans {g g' g'' : Given} (h : g.Keeps g') (h' : g'.Keeps g'') : g.Keeps g'' :=
  ⟨fun f hf => h'.has f (h.has f hf), fun hg => h'.ports (h.ports hg)⟩

theorem keeps_set (g : Given) {f : Flag} {value : FlagValue} (hfits : f.Fits value)
    (source : Source) : g.Keeps (g.set f source value) :=
  ⟨fun _ h => has_set h f source value, fun h => h.set hfits source⟩

theorem mem_of_lookup {g : Given} {f : Flag} {v : Source × FlagValue} (h : g.lookup f = some v) :
    (f, v) ∈ g := by
  obtain ⟨before, after, rfl, -⟩ := List.lookup_eq_some_iff.mp h
  simp

theorem has_merge {outer inner : Given} {f : Flag} (h : outer.has f = true ∨ inner.has f = true) :
    (outer.merge inner).has f = true := by
  rw [has_iff]
  cases houter : outer.lookup f with
  | none =>
      have hnot : outer.has f = false := by simp [has, houter]
      have hinner := h.resolve_left (by simp [hnot])
      obtain ⟨e, he, hkey⟩ := (has_iff inner f).mp hinner
      refine ⟨e, List.mem_append_right _ (List.mem_filter.mpr ⟨he, ?_⟩), hkey⟩
      simp [← hkey, hnot]
  | some v =>
      by_cases hdrops : inner.has f = true ∧ (v.1 = .environment ∨ inner.isWeak f = false)
      · obtain ⟨hinner, hwins⟩ := hdrops
        obtain ⟨e, he, hkey⟩ := (has_iff inner f).mp hinner
        have hweak : outer.isWeak f = true ∨ inner.isWeak f = false := by
          refine hwins.imp_left fun hsource => ?_
          simp [isWeak, houter, hsource]
        refine ⟨e, List.mem_append_right _ (List.mem_filter.mpr ⟨he, ?_⟩), hkey⟩
        rw [← hkey]
        rcases hweak with hweak | hweak <;> simp [hweak]
      · refine ⟨(f, v), List.mem_append_left _
          (List.mem_filter.mpr ⟨mem_of_lookup houter, ?_⟩), rfl⟩
        cases hinner : inner.has f with
        | false => simp
        | true =>
            simp only [hinner, true_and, not_or, Bool.not_eq_false] at hdrops
            have hsource : v.1 = .commandLine := by
              cases hv : v.1 with
              | environment => exact absurd hv hdrops.1
              | commandLine => rfl
            simp [hdrops.2, hsource]

end Given

namespace Grammar

/-- Whether no command of a grammar goes by a word, however deep it lies. -/
inductive Spares (word : String) : Grammar → Prop
  | single {s : Grammar} (h : s.isGroup = false) : Spares word s
  | group {entries : List (List String × Grammar)} (hhelp : (word == helpName) = false)
      (hnames : ∀ e ∈ entries, word ∉ e.1)
      (hinner : ∀ e ∈ entries, Spares word e.2) : Spares word (.group entries)

variable {word : String} {s : Grammar}

theorem Spares.names_eq (h : s.Spares word) : s.names word = false := by
  cases h with
  | single h => simp [names, h]
  | @group entries hhelp hnames _ =>
      have hchild : (Grammar.group entries).child? word = none := by
        rw [child?, Option.map_eq_none_iff, List.find?_eq_none]
        intro e he
        simpa using hnames e he
      simp [names, hhelp, hchild]

theorem Spares.child (h : s.Spares word) {name proper : String} {inner : Grammar}
    (hchild : s.child? name = some (proper, inner)) : inner.Spares word := by
  cases h with
  | single h => cases s <;> simp_all [child?, isGroup]
  | group _ _ hinner =>
      simp only [child?, Option.map_eq_some_iff] at hchild
      obtain ⟨e, he, heq⟩ := hchild
      obtain ⟨-, rfl⟩ := Prod.mk.inj heq
      exact hinner e (List.mem_of_find?_eq_some he)

end Grammar

/-! ## One argument -/

structure Progress.Keeps (before after : Progress) : Prop where
  operandsOnly : after.operandsOnly = before.operandsOnly
  given : before.given.Keeps after.given

theorem Progress.Keeps.refl (p : Progress) : p.Keeps p := ⟨rfl, .refl p.given⟩

theorem Progress.Keeps.trans {p q r : Progress} (hpq : p.Keeps q) (hqr : q.Keeps r) : p.Keeps r :=
  ⟨hqr.operandsOnly.trans hpq.operandsOnly, hpq.given.trans hqr.given⟩

namespace Arguments

open Progress

theorem takeValue_keeps (f : Flag) (value : Option String) (g : Given) :
    Yields (takeValue f value g) g.Keeps := by
  unfold takeValue
  split
  · exact yields_error _
  · rename_i text
    split
    · exact yields_error _
    · exact (f.fits_read text).bind fun v hv => yields_ok (g.keeps_set hv _)

theorem takeSwitch_keeps (f : Flag) (g : Given) :
    Yields (takeSwitch f g) g.Keeps := by
  have hfits : ∀ f : Flag, f.Fits .on := fun _ _ _ hn => by cases hn
  unfold takeSwitch
  split
  · exact yields_error _
  · exact yields_error _
  · exact yields_ok (g.keeps_set (fun hport => by cases hport) _)
  · split
    · exact yields_error _
    · exact yields_ok (g.keeps_set (hfits _) _)

theorem resolve_keeps (s : Grammar) (p : Progress) : Yields (resolve s p) p.Keeps := by
  unfold resolve
  split
  · exact yields_ok (.refl p)
  · exact (takeValue_keeps _ _ p.given).bind fun given h => yields_ok ⟨rfl, h⟩
  · split
    · split
      · exact yields_ok ⟨rfl, .refl p.given⟩
      · exact yields_error _
    · exact yields_ok ⟨rfl, .refl p.given⟩

theorem enterSwitch_keeps (s : Grammar) (f : Flag) (p : Progress) :
    Yields (enterSwitch s f p) p.Keeps := by
  unfold enterSwitch
  refine (resolve_keeps s p).bind fun q hq => ?_
  exact (takeSwitch_keeps f q.given).bind fun given h => yields_ok (hq.trans ⟨rfl, h⟩)

theorem enterValue_keeps (s : Grammar) (f : Flag) (attached : Option (List Char)) (p : Progress) :
    Yields (enterValue s f attached p) p.Keeps := by
  unfold enterValue
  refine (resolve_keeps s p).bind fun q hq => ?_
  cases attached with
  | none => exact yields_ok (hq.trans ⟨rfl, .refl q.given⟩)
  | some text =>
      exact (takeValue_keeps f _ q.given).bind fun given h => yields_ok (hq.trans ⟨rfl, h⟩)

theorem enterShort_keeps (s : Grammar) (text : List Char) (p : Progress) :
    Yields (enterShort s text p) p.Keeps := by
  induction text generalizing p with
  | nil => exact yields_ok (.refl p)
  | cons c rest ih =>
      unfold enterShort
      split
      · exact yields_error _
      · split
        · exact enterValue_keeps s _ _ p
        · exact (enterSwitch_keeps s _ p).bind fun q hq => (ih q).mono fun r hr => hq.trans hr

theorem enterLong_keeps (s : Grammar) (text : List Char) (p : Progress) :
    Yields (enterLong s text p) p.Keeps := by
  unfold enterLong
  dsimp only
  split
  · exact yields_error _
  · split
    · exact enterValue_keeps s _ _ p
    · split
      · exact yields_error _
      · exact enterSwitch_keeps s _ p

theorem enterOperand_keeps (s : Grammar) (word : String) (p : Progress) :
    Yields (enterOperand s word p) p.Keeps := by
  unfold enterOperand
  split
  · exact (resolve_keeps s p).bind fun q hq => yields_ok (hq.trans ⟨rfl, .refl q.given⟩)
  · split <;> exact yields_error _

theorem enterWord_keeps (s : Grammar) (word : String) (p : Progress) :
    Yields (enterWord s word p) p.Keeps := by
  unfold enterWord
  split
  · split
    · exact enterOperand_keeps s word p
    · exact yields_ok ⟨rfl, .refl p.given⟩
  · exact enterOperand_keeps s word p

theorem enter_keeps (s : Grammar) (arg : String) (p : Progress) :
    Yields (enter s arg p) fun q =>
      (arg ≠ "--" → q.operandsOnly = p.operandsOnly) ∧ p.given.Keeps q.given := by
  have hkeeps : ∀ {q : Progress}, p.Keeps q →
      (arg ≠ "--" → q.operandsOnly = p.operandsOnly) ∧ p.given.Keeps q.given :=
    fun hq => ⟨fun _ => hq.operandsOnly, hq.given⟩
  unfold enter
  split
  · exact (enterWord_keeps s arg p).mono fun q => hkeeps
  · split
    · rename_i htext
      refine yields_ok ⟨fun hne => absurd ?_ hne, .refl p.given⟩
      exact String.toList_inj.mp htext
    · exact (enterLong_keeps s _ p).mono fun q => hkeeps
    · exact (enterShort_keeps s _ p).mono fun q => hkeeps
    · exact (enterWord_keeps s arg p).mono fun q => hkeeps

/-! ## A command line -/

variable (environment : Environment)

theorem askEnvironment_keeps (flags : List Flag) (g : Given) :
    Yields (askEnvironment environment g flags) g.Keeps := by
  induction flags generalizing g with
  | nil => exact yields_ok (.refl g)
  | cons f rest ih =>
      unfold askEnvironment
      split
      · exact ih g
      · rename_i text _
        refine (f.fits_read text).bind fun value hvalue => (ih _).mono fun g' h => ?_
        exact (g.keeps_set hvalue _).trans h

theorem finish_merges (isProgram : Bool) (s : Grammar) (p : Progress) (inner : Option Reading) :
    Yields (finish environment isProgram s p inner) fun r =>
      ∃ given, p.given.Keeps given ∧ r.given = given.merge (inner.elim [] (·.given)) := by
  unfold finish
  refine (resolve_keeps s p).bind fun q hq => ?_
  refine (askEnvironment_keeps environment s.flags q.given).bind fun given hgiven => ?_
  exact yields_bind fun command => yields_ok ⟨given, hq.given.trans hgiven, rfl⟩

theorem finish_keeps (isProgram : Bool) (s : Grammar) (p : Progress) (inner : Option Reading)
    (f : Flag) :
    Yields (finish environment isProgram s p inner) fun r =>
      p.given.has f = true ∨ Given.has (inner.elim [] (·.given)) f = true → r.given.has f = true := by
  refine (finish_merges environment isProgram s p inner).mono ?_
  rintro r ⟨given, hkeeps, hr⟩ h
  rw [hr]
  exact Given.has_merge (h.imp_left (hkeeps.has f))

theorem finish_ports (isProgram : Bool) (s : Grammar) (p : Progress) {inner : Option Reading}
    (hinner : Given.HasPorts (inner.elim [] (·.given))) :
    Yields (finish environment isProgram s p inner) fun r =>
      p.given.HasPorts → r.given.HasPorts := by
  refine (finish_merges environment isProgram s p inner).mono ?_
  rintro r ⟨given, hkeeps, hr⟩ h
  rw [hr]
  exact (hkeeps.ports h).merge hinner

theorem readCommand_ports (words : List String) (isProgram : Bool) (s : Grammar) (p : Progress) :
    Yields (readCommand environment isProgram s p words) fun r =>
      p.given.HasPorts → r.given.HasPorts := by
  have hnone : Given.HasPorts [] := by simp [Given.HasPorts]
  induction words generalizing isProgram s p with
  | nil => exact finish_ports environment isProgram s p hnone
  | cons word rest ih =>
      unfold readCommand
      split
      · split
        · rename_i proper inner hchild
          refine ((ih false inner .start).mapError _).bind fun r hr => ?_
          exact finish_ports environment isProgram s p (hr hnone)
        · exact yields_error _
      · refine (enter_keeps s word p).bind fun q hq => ?_
        exact (ih isProgram s q).mono fun r hr h => hr (hq.2.ports h)

theorem port_lt {words : List String} {a : Arguments} (h : parse environment words = .ok a)
    {port : Nat} (hport : a.options.port = some port) : port < 65536 := by
  have hread : Yields (parse environment words) fun a => ∀ port, a.options.port = some port →
      port < 65536 := by
    unfold parse
    refine (readCommand_ports environment words true .program .start).bind fun r hr => ?_
    refine yields_ok fun port hport => ?_
    have hports : r.given.HasPorts := hr (by simp [Given.HasPorts, Progress.start])
    change r.given.number? .port = some port at hport
    unfold Given.number? Given.value? at hport
    cases hvalue : r.given.lookup Flag.port with
    | none => simp [hvalue] at hport
    | some v =>
        rw [hvalue] at hport
        have hfits := hports _ (Given.mem_of_lookup hvalue) rfl
        dsimp only [Option.map] at hport
        split at hport
        · rename_i n hn
          obtain rfl := Option.some.inj hport
          exact hfits _ (Option.some.inj hn)
        · cases hport
  exact hread a h port hport

end Arguments

end FlowConsole.Command

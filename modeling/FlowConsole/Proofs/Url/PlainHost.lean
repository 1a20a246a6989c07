import FlowConsole.Proofs.Text.Utf8
import FlowConsole.Proofs.Url.Authority
import Mathlib.Data.List.TakeWhile
/-!
Plain hosts: texts that are a host and nothing else wherever a URL has its host.

Main statement: the URL made of a plain host, a port and a path has that host, that port and that
path, and no user information.
-/
namespace FlowConsole.Url

open Text

/-- Signs with a meaning of their own in front of the path of a URL. -/
def isSign (c : Char) : Bool :=
  endsAuthority true c || c == ':' || c == '@' || c == '[' || c == ']' || isBreak c

/-- A text that is read as a host and holds nothing that could be read as something else. -/
structure IsPlainHost (s : List Char) (host : Host) : Prop where
  noSigns : ∀ c ∈ s, isSign c = false
  isHost : hostOfText s = .ok host

def httpText (host : List Char) (port : Nat) : List Char :=
  'h' :: 't' :: 't' :: 'p' :: ':' :: '/' :: '/' :: (host ++ ':' :: Nat.toDigits 10 port)

/-- A URL that names nothing but a host and a port. -/
def httpSite (host : Host) (port : Nat) : Url :=
  { scheme := "http", username := "", password := none, host := some host
    port := if port = 80 then none else some port, path := "", query := none, fragment := none }

/-! ## The beginning of a text -/

theorem isDigit_of_mem_toDigits_ten {n : Nat} {c : Char} (hc : c ∈ Nat.toDigits 10 n) :
    c.isDigit = true :=
  Nat.isDigit_of_mem_toDigits (by decide) (by decide) hc

theorem isSign_of_isDigit {c : Char} (hc : c.isDigit = true) : isSign c = false := by
  have hbounds := Char.isDigit_iff_toNat.mp hc
  cases hsign : isSign c with
  | false => rfl
  | true =>
      simp only [isSign, endsAuthority, isBreak, Bool.or_eq_true, Bool.and_eq_true, beq_iff_eq,
        true_and] at hsign
      exfalso
      rcases hsign with ((((((((rfl | rfl) | rfl) | rfl) | rfl) | rfl) | rfl) | rfl) |
        ((rfl | rfl) | rfl)) <;> revert hbounds <;> decide

theorem isSign_eq_false_iff (c : Char) :
    isSign c = false ↔ endsAuthority true c = false ∧ c ≠ ':' ∧ c ≠ '@' ∧ c ≠ '[' ∧ c ≠ ']' ∧
      isBreak c = false := by
  simp only [isSign, Bool.or_eq_false_iff, beq_eq_false_iff_ne, ne_eq, and_assoc]

theorem filter_of_noBreaks {s : List Char} (h : ∀ c ∈ s, isBreak c = false) :
    (s.filter fun c => !isBreak c) = s := by
  apply List.filter_eq_self.mpr
  intro c hc
  simp [h c hc]

theorem toDigits_noSigns (n : Nat) : ∀ c ∈ Nat.toDigits 10 n, isSign c = false :=
  fun _ hc => isSign_of_isDigit (isDigit_of_mem_toDigits_ten hc)

def hostLeft (host : List Char) : List Char :=
  (host.filter fun c => !isBreak c).dropWhile fun c => c == '/' || c == '\\'

theorem hostLeft_eq_self {s : List Char}
    (h : ∀ c ∈ s, endsAuthority true c = false ∧ isBreak c = false) : hostLeft s = s := by
  unfold hostLeft
  rw [filter_of_noBreaks fun c hc => (h c hc).2]
  cases s with
  | nil => rfl
  | cons c s =>
      have hc := (h c List.mem_cons_self).1
      simp only [endsAuthority, Bool.or_eq_false_iff, Bool.true_and] at hc
      simp [hc]

theorem parseChars_httpText (host : List Char) (port : Nat) (t : List Char) :
    parseChars (httpText host port ++ '/' :: t) =
      readAuthority "http" .hostBased
        ((hostLeft host ++ ':' :: Nat.toDigits 10 port) ++ '/' :: cleanEnd t) := by
  have hclean : clean (httpText host port ++ '/' :: t) =
      'h' :: 't' :: 't' :: 'p' :: ':' :: '/' :: '/' ::
        ((host.filter fun c => !isBreak c) ++
          ':' :: (Nat.toDigits 10 port ++ '/' :: cleanEnd t)) := by
    have hport : ∀ c ∈ Nat.toDigits 10 port, isBreak c = false := fun c hc =>
      ((isSign_eq_false_iff c).mp (toDigits_noSigns port c hc)).2.2.2.2.2
    have h := clean_append_slash (c := 'h') (by decide)
      ('t' :: 't' :: 'p' :: ':' :: '/' :: '/' :: (host ++ ':' :: Nat.toDigits 10 port)) t
    unfold httpText
    rw [h]
    simp only [List.filter_cons, List.filter_append, filter_of_noBreaks hport]
    simp [isBreak]
  have hdrop : ∀ s u : List Char,
      (s ++ ':' :: u).dropWhile (fun c => c == '/' || c == '\\') =
        s.dropWhile (fun c => c == '/' || c == '\\') ++ ':' :: u := by
    intro s u
    rw [List.dropWhile_append]
    split
    · rename_i hempty
      simp [List.isEmpty_iff.mp hempty]
    · rfl
  unfold parseChars
  rw [hclean]
  have hscheme : ∀ rest : List Char,
      readScheme? ('h' :: 't' :: 't' :: 'p' :: ':' :: rest) = some ("http", rest) := fun _ => rfl
  have hkind : SchemeKind.ofScheme "http" = .hostBased := rfl
  rw [hscheme]
  simp only [hkind]
  rw [List.dropWhile_cons_of_pos (by decide), List.dropWhile_cons_of_pos (by decide), hdrop]
  simp [hostLeft]

def hostPortText (host : List Char) (port : Nat) : List Char :=
  hostLeft host ++ ':' :: Nat.toDigits 10 port

/-- Whether host and port can be read does not depend on the path, nor does what they are read
as. -/
theorem parseChars_httpText_eq (host : List Char) (port : Nat) (t : List Char) :
    parseChars (httpText host port ++ '/' :: t) =
      (siteOfFront (front (hostPortText host port))).map fun site =>
        locate site true (behindFront (hostPortText host port) ++ '/' :: cleanEnd t) := by
  have hslash : EndsFront ('/' :: cleanEnd t) := by
    intro c hc
    obtain rfl : '/' = c := by simpa using hc
    rfl
  rw [parseChars_httpText, ← hostPortText]
  conv_lhs => rw [← front_append_behindFront (hostPortText host port), List.append_assoc]
  exact readAuthority_append (endsFront_behindFront_append _ hslash) (isFront_front _)

/-! ## A plain host -/

theorem takeHost_of_noSigns {s : List Char} (h : ∀ c ∈ s, isSign c = false) (t : List Char) :
    takeHost true false (s ++ ':' :: t) = (s, ':' :: t) := by
  induction s with
  | nil => rfl
  | cons c s ih =>
      have hc := (isSign_eq_false_iff c).mp (h c List.mem_cons_self)
      simp [takeHost, hc, ih fun d hd => h d (List.mem_cons_of_mem c hd)]

namespace IsPlainHost

variable {s : List Char} {host : Host}

theorem ne_nil (h : IsPlainHost s host) : s ≠ [] := by
  rintro rfl
  have hdecode : Utf8.decode? (percentDecode []) = some "" := Utf8.decode?_nil
  have hempty : hostOfText [] = .error .emptyHost := by
    simp only [hostOfText, hdecode]
    rfl
  exact absurd (hempty.symm.trans h.isHost) (by simp)

theorem hostLeft_eq (h : IsPlainHost s host) : hostLeft s = s := by
  apply hostLeft_eq_self
  intro c hc
  have hsign := (isSign_eq_false_iff c).mp (h.noSigns c hc)
  exact ⟨hsign.1, hsign.2.2.2.2.2⟩

theorem isFront_hostPort (h : IsPlainHost s host) (port : Nat) :
    IsFront (s ++ ':' :: Nat.toDigits 10 port) ∧ '@' ∉ s ++ ':' :: Nat.toDigits 10 port := by
  have hmem : ∀ c ∈ s ++ ':' :: Nat.toDigits 10 port, endsAuthority true c = false ∧ c ≠ '@' := by
    have hnot : ∀ c, isSign c = false → endsAuthority true c = false ∧ c ≠ '@' := by
      intro c hc
      have hsign := (isSign_eq_false_iff c).mp hc
      exact ⟨hsign.1, hsign.2.2.1⟩
    intro c hc
    rcases List.mem_append.mp hc with hc | hc
    · exact hnot c (h.noSigns c hc)
    · rcases List.mem_cons.mp hc with rfl | hc
      · decide
      · exact hnot c (toDigits_noSigns port c hc)
  exact ⟨fun c hc => (hmem c hc).1, fun hat => (hmem '@' hat).2 rfl⟩

end IsPlainHost

theorem portAfter_toDigits {port : Nat} (hport : port < 65536) :
    portAfter (':' :: Nat.toDigits 10 port) = .ok (if port = 80 then none else some port) := by
  have hall : (Nat.toDigits 10 port).all Char.isDigit = true :=
    List.all_eq_true.mpr fun c hc => isDigit_of_mem_toDigits_ten hc
  have hvalue : (Nat.toDigits 10 port).foldl (fun n c => n * 10 + (c.toNat - 48)) 0 = port := by
    have h := Nat.ofDigitChars_ten_toDigits (n := port)
    have hzero : '0'.toNat = 48 := rfl
    unfold Nat.ofDigitChars at h
    simpa only [Nat.mul_comm, hzero] using h
  have hwritten : writtenPort? "http" (Nat.toDigits 10 port) =
      if port = 80 then none else some port := by
    unfold writtenPort?
    have hdefault : defaultPort? "http" = some 80 := rfl
    have hempty : (Nat.toDigits 10 port).isEmpty = false :=
      List.isEmpty_eq_false_iff.mpr Nat.toDigits_ne_nil
    simp only [hvalue, hdefault, hempty, Bool.false_eq_true, if_false, Option.some.injEq]
    by_cases h80 : port = 80
    · simp [h80]
    · rw [if_neg fun h => h80 h.symm, if_neg h80]
  unfold portAfter
  simp only [hvalue, hwritten]
  rw [if_pos ⟨hall, by omega⟩]

/-- A URL with a plain host has that host and the port as given, and what follows is its path. -/
theorem IsPlainHost.parseChars_eq {s : List Char} {host : Host} (h : IsPlainHost s host)
    {port : Nat} (hport : port < 65536) (t : List Char) :
    parseChars (httpText s port ++ '/' :: t) =
      .ok (locate (httpSite host port) true ('/' :: cleanEnd t)) := by
  obtain ⟨hfront, hat⟩ := h.isFront_hostPort port
  have hhost : hostOfTaken s = .ok host := by
    simp [hostOfTaken, h.ne_nil, h.isHost]
  have hsite : siteOfFront (s ++ ':' :: Nat.toDigits 10 port) = .ok (httpSite host port) := by
    unfold siteOfFront
    simp only [splitUserInfo_of_not_mem hfront hat, Option.getD_none,
      takeHost_of_noSigns h.noSigns, hhost, portAfter_toDigits hport]
    rfl
  rw [parseChars_httpText_eq, hostPortText, h.hostLeft_eq, front_eq_self hfront,
    behindFront_eq_nil hfront, hsite]
  rfl

end FlowConsole.Url

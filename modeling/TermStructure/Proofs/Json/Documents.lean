import Mathlib.Data.List.Forall2
import TermStructure.Proofs.Json.Tokens

/-!
# Parts of documents

The reader treats a value within a document as it treats the value alone: containers that are open
around it are not touched before it is finished (`Finishes.run_append`). So whether a text reads as a value is
seen at the text alone (`reads_iff`), and the text of a container is read part by part
(`ReadsBack.ofItems`, `ReadsBack.ofMembers`).
-/

namespace TermStructure.Json

variable {cs tail : List Char} {t u : Tree} {mode : Mode} {frames outer : List Frame}
  {token : Token} {tokens rest : List Token}

/-! ## The machine below open containers -/

/-- The reader after a value: it goes on in the innermost open container, if there is one. -/
def resume (t : Tree) (frames : List Frame) (tokens : List Token) : Document :=
  match place t frames with
  | some (mode, frames) => run mode frames tokens
  | none => ⟨t, tokens.isEmpty⟩

theorem resume_array (t : Tree) (done : List Tree) (frames : List Frame) (tokens : List Token) :
    resume t (.array done :: frames) tokens = run (.afterItem (t :: done)) frames tokens :=
  rfl

theorem resume_object (t : Tree) (done : List (Key × Tree)) (key : Key) (frames : List Frame)
    (tokens : List Token) :
    resume t (.object done key :: frames) tokens = run (.afterMember ((key, t) :: done)) frames tokens :=
  rfl

theorem run_goOn {mode' : Mode} {frames' : List Frame}
    (h : step mode frames token = .goOn mode' frames') :
    run mode frames (token :: rest) = run mode' frames' rest := by
  simp only [run, h]

theorem run_finish {frames' : List Frame} (h : step mode frames token = .finish t frames') :
    run mode frames (token :: rest) = resume t frames' rest := by
  simp only [run, h]
  rfl

theorem run_halt (h : step mode frames token = .halt) :
    run mode frames (token :: rest) = stop mode frames := by
  simp only [run, h]

theorem not_complete_abandon (t : Option Tree) (frames : List Frame) :
    (abandon t frames).complete = false := by
  induction frames generalizing t with
  | nil => rfl
  | cons frame frames ih =>
    cases frame with
    | array done => exact ih _
    | object done key => exact ih _

theorem not_complete_stop (mode : Mode) (frames : List Frame) :
    (stop mode frames).complete = false := by
  cases mode <;> exact not_complete_abandon _ _

theorem stop_ne (mode : Mode) (frames : List Frame) (t : Tree) : stop mode frames ≠ ⟨t, true⟩ := by
  intro h
  have hcomplete := not_complete_stop mode frames
  simp [h] at hcomplete

/-- The machine reads all tokens of a value and stops at its end. -/
inductive Finishes (t : Tree) : Mode → List Frame → List Token → Prop where
  | goOn {mode mode' : Mode} {frames frames' : List Frame} {token : Token} {tokens : List Token} :
    step mode frames token = .goOn mode' frames' → Finishes t mode' frames' tokens →
    Finishes t mode frames (token :: tokens)
  | part {mode mode' : Mode} {frames frames' open' : List Frame} {token : Token}
    {tokens : List Token} {u : Tree} :
    step mode frames token = .finish u open' → place u open' = some (mode', frames') →
    Finishes t mode' frames' tokens → Finishes t mode frames (token :: tokens)
  | whole {mode : Mode} {frames : List Frame} {token : Token} :
    step mode frames token = .finish t [] → Finishes t mode frames [token]

theorem finishes_of_run (h : run mode frames tokens = ⟨t, true⟩) : Finishes t mode frames tokens := by
  induction tokens generalizing mode frames with
  | nil => exact absurd h (stop_ne mode frames t)
  | cons token tokens ih =>
    cases hstep : step mode frames token with
    | halt =>
      rw [run_halt hstep] at h
      exact absurd h (stop_ne mode frames t)
    | goOn mode' frames' =>
      rw [run_goOn hstep] at h
      exact .goOn hstep (ih h)
    | finish u frames' =>
      rw [run_finish hstep] at h
      cases frames' with
      | nil =>
        obtain ⟨rfl, hempty⟩ := Document.mk.inj h
        rw [List.isEmpty_iff.1 hempty]
        exact .whole hstep
      | cons frame frames' =>
        cases frame with
        | array done => exact .part hstep rfl (ih h)
        | object done key => exact .part hstep rfl (ih h)

/-- A step with more containers open around it. -/
def Step.under (outer : List Frame) : Step → Step
  | .goOn mode frames => .goOn mode (frames ++ outer)
  | .finish t frames => .finish t (frames ++ outer)
  | .halt => .halt

theorem step_append (outer : List Frame) {s : Step} (hstep : step mode frames token = s)
    (h : s ≠ .halt) : step mode (frames ++ outer) token = s.under outer := by
  subst hstep
  unfold step at h ⊢
  split at h
  case h_5 =>
    split at h
    · rfl
    · exact absurd rfl h
  case h_13 => exact absurd rfl h
  all_goals rfl

theorem resume_append {mode' : Mode} {frames' : List Frame} (outer : List Frame) (tokens : List Token)
    (h : place t frames = some (mode', frames')) :
    resume t (frames ++ outer) tokens = run mode' (frames' ++ outer) tokens := by
  rcases frames with _ | ⟨⟨done⟩ | ⟨done, key⟩, frames⟩
  · simp [place] at h
  all_goals
    obtain ⟨rfl, rfl⟩ := Prod.mk.inj (Option.some.inj h)
    rfl

/-- What the machine makes of the tokens of one value, it makes of them below open containers. -/
theorem Finishes.run_append (outer : List Frame) (rest : List Token)
    (h : Finishes t mode frames tokens) :
    run mode (frames ++ outer) (tokens ++ rest) = resume t outer rest := by
  induction h with
  | goOn hstep _ ih => rw [List.cons_append, run_goOn (step_append outer hstep nofun), ih]
  | part hstep hplace _ ih =>
    rw [List.cons_append, run_finish (step_append outer hstep nofun),
      resume_append outer _ hplace, ih]
  | whole hstep => exact run_finish (step_append outer hstep nofun)

theorem step_bad (mode : Mode) (frames : List Frame) : step mode frames .bad = .halt := by
  cases mode <;> rfl

theorem Finishes.not_bad (h : Finishes t mode frames tokens) : Token.bad ∉ tokens := by
  have hne : ∀ {mode frames token s}, step mode frames token = s → s ≠ .halt → .bad ≠ token := by
    rintro mode frames token s hstep hs rfl
    exact hs (hstep.symm.trans (step_bad mode frames))
  induction h with
  | goOn hstep _ ih => exact List.not_mem_cons_of_ne_of_not_mem (hne hstep nofun) ih
  | part hstep _ _ ih => exact List.not_mem_cons_of_ne_of_not_mem (hne hstep nofun) ih
  | whole hstep => exact List.not_mem_cons_of_ne_of_not_mem (hne hstep nofun) List.not_mem_nil

/-- Where a value is wanted, the end of an array is all that may also stand. -/
theorem step_orEnd (orEnd : Bool) {s : Step} (hstep : step (.value false) frames token = s)
    (h : s ≠ .halt) : step (.value orEnd) frames token = s := by
  subst hstep
  cases token <;> first | rfl | exact absurd rfl h

theorem Finishes.orEnd (orEnd : Bool) (h : Finishes t (.value false) frames tokens) :
    Finishes t (.value orEnd) frames tokens := by
  -- Only the first token is read in this mode.
  cases h with
  | goOn hstep hrest => exact .goOn (step_orEnd orEnd hstep nofun) hrest
  | part hstep hplace hrest => exact .part (step_orEnd orEnd hstep nofun) hplace hrest
  | whole hstep => exact .whole (step_orEnd orEnd hstep nofun)

/-! ## Texts of values -/

/-- Wherever a value is wanted, a text is read as a tree if punctuation or the end follows. -/
def Reads (cs : List Char) (t : Tree) : Prop :=
  ∀ orEnd frames tail, Delimited tail →
    run (.value orEnd) frames (lex (cs ++ tail)) = resume t frames (lex tail)

theorem lex_nil : lex [] = [] := by
  rw [lex]

/-- A text that is read as a tree on its own is read as this tree within documents. -/
theorem reads_iff : Reads cs t ↔ read (String.ofList cs) = ⟨t, true⟩ := by
  rw [read, String.toList_ofList]
  constructor
  · intro h
    have halone := h false [] [] delimited_nil
    rw [List.append_nil, lex_nil] at halone
    exact halone
  · intro h orEnd frames tail htail
    have hfinishes := finishes_of_run h
    rw [lex_append htail hfinishes.not_bad]
    exact (hfinishes.orEnd orEnd).run_append frames (lex tail)

theorem reads_string (s : String) : Reads (stringChars s.toList) (.string (some s)) := by
  intro orEnd frames tail _
  rw [lex_stringChars, String.ofList_toList]
  exact run_finish rfl

/-! ## Written containers -/

/-- What is written for a tree is read as a tree. -/
def ReadsBack (t u : Tree) : Prop :=
  Reads (compactChars t) u

theorem readsBack_iff : ReadsBack t u ↔ read (compact t) = ⟨u, true⟩ :=
  reads_iff

theorem ReadsBack.ofText (s : String) : ReadsBack (.ofText s) (.ofText s) :=
  reads_string s

/-- The items of an array up to its end, after those that are done. -/
theorem run_compactItems {items values : List Tree} (h : List.Forall₂ ReadsBack items values)
    (hne : items ≠ []) (orEnd : Bool) (done : List Tree) (frames : List Frame) (tail : List Char) :
    run (.value orEnd) (.array done :: frames) (lex (compactItems items ++ ']' :: tail)) =
      resume (.array (done.reverse ++ values) .closed) frames (lex tail) := by
  induction h generalizing orEnd done with
  | nil => exact absurd rfl hne
  | @cons item value items values hitem hitems ih =>
    cases hitems with
    | nil =>
      have hclose : lex (']' :: tail) = .closeArray :: lex tail := lex_punctuation rfl tail
      rw [compactItems, hitem _ _ _ (delimited_cons rfl), hclose, resume_array, run_finish rfl,
        List.reverse_cons]
    | @cons item' value' items values hitem' hitems =>
      have hcomma : ∀ cs, lex (',' :: cs) = .comma :: lex cs := lex_punctuation rfl
      have hrest := ih (List.cons_ne_nil _ _) false (value :: done)
      rw [List.reverse_cons, List.append_assoc, List.singleton_append] at hrest
      rw [compactItems, List.append_assoc, List.cons_append, hitem _ _ _ (delimited_cons rfl), hcomma,
        resume_array, run_goOn rfl, hrest]
      simp

theorem ReadsBack.ofItems {items values : List Tree} (h : List.Forall₂ ReadsBack items values) :
    ReadsBack (.ofItems items) (.ofItems values) := by
  intro orEnd frames tail _
  have hopen : ∀ cs, lex ('[' :: cs) = .openArray :: lex cs := lex_punctuation rfl
  have htext : compactChars (.ofItems items) ++ tail = '[' :: (compactItems items ++ ']' :: tail) := by
    simp [Tree.ofItems, compactChars, closing]
  rw [htext, hopen, run_goOn rfl]
  cases h with
  | nil =>
    have hclose : lex (']' :: tail) = .closeArray :: lex tail := lex_punctuation rfl tail
    rw [compactItems, List.nil_append, hclose]
    exact run_finish rfl
  | cons hitem hitems =>
    exact run_compactItems (.cons hitem hitems) (List.cons_ne_nil _ _) true [] frames tail

/-- The value under a key is read back. -/
def MemberReadsBack (m n : String × Tree) : Prop :=
  m.1 = n.1 ∧ ReadsBack m.2 n.2

/-- Members with the keys that they have in trees. -/
def keyed (members : List (String × Tree)) : List (Key × Tree) :=
  members.map fun m => (some m.1, m.2)

theorem run_member {m n : String × Tree} (h : MemberReadsBack m n) (done : List (Key × Tree))
    (orEnd : Bool) (frames : List Frame) {tail : List Char} (htail : Delimited tail) :
    run (.key done orEnd) frames (lex (keyChars (some m.1) ++ ':' :: (compactChars m.2 ++ tail))) =
      run (.afterMember ((some n.1, n.2) :: done)) frames (lex tail) := by
  have hcolon : ∀ cs, lex (':' :: cs) = .colon :: lex cs := lex_punctuation rfl
  rw [keyChars, lex_stringChars, String.ofList_toList, h.1, run_goOn rfl, hcolon, run_goOn rfl,
    h.2 _ _ _ htail, resume_object]

/-- The members of an object up to its end, after those that are done. -/
theorem run_compactMembers {members values : List (String × Tree)}
    (h : List.Forall₂ MemberReadsBack members values) (hne : members ≠ [])
    (done : List (Key × Tree)) (orEnd : Bool) (frames : List Frame) (tail : List Char) :
    run (.key done orEnd) frames (lex (compactMembers (keyed members) ++ '\x7d' :: tail)) =
      resume (.object (done.reverse ++ keyed values) .closed) frames (lex tail) := by
  induction h generalizing orEnd done with
  | nil => exact absurd rfl hne
  | @cons member value members values hmember hmembers ih =>
    cases hmembers with
    | nil =>
      have hclose : lex ('\x7d' :: tail) = .closeObject :: lex tail := lex_punctuation rfl tail
      have hend : Delimited ('\x7d' :: tail) := delimited_cons rfl
      have hread := run_member hmember done orEnd frames hend
      rw [hclose] at hread
      simp only [keyed, List.map_cons, List.map_nil, compactMembers, List.append_assoc,
        List.cons_append]
      rw [hread, run_finish rfl, List.reverse_cons]
    | @cons member' value' members values hmember' hmembers =>
      have hcomma : ∀ cs, lex (',' :: cs) = .comma :: lex cs := lex_punctuation rfl
      have hend : ∀ cs, Delimited (',' :: cs) := fun cs => delimited_cons rfl
      have hrest := ih (List.cons_ne_nil _ _) ((some value.1, value.2) :: done) false
      have htext : compactMembers (keyed (member :: member' :: members)) ++ '\x7d' :: tail =
          keyChars (some member.1) ++ ':' :: (compactChars member.2 ++
            ',' :: (compactMembers (keyed (member' :: members)) ++ '\x7d' :: tail)) := by
        simp [keyed, compactMembers]
      rw [htext, run_member hmember done orEnd frames (hend _), hcomma, run_goOn rfl, hrest]
      simp [keyed]

theorem ReadsBack.ofMembers {members values : List (String × Tree)}
    (h : List.Forall₂ MemberReadsBack members values) :
    ReadsBack (.ofMembers members) (.ofMembers values) := by
  intro orEnd frames tail _
  have hopen : ∀ cs, lex ('\x7b' :: cs) = .openObject :: lex cs := lex_punctuation rfl
  have htext : compactChars (.ofMembers members) ++ tail =
      '\x7b' :: (compactMembers (keyed members) ++ '\x7d' :: tail) := by
    simp [Tree.ofMembers, keyed, compactChars, closing]
  rw [htext, hopen, run_goOn rfl]
  cases h with
  | nil =>
    have hclose : lex ('\x7d' :: tail) = .closeObject :: lex tail := lex_punctuation rfl tail
    change run (.key [] true) frames (lex ('\x7d' :: tail)) = _
    rw [hclose]
    exact run_finish rfl
  | cons hmember hmembers =>
    exact run_compactMembers (.cons hmember hmembers) (List.cons_ne_nil _ _) [] true frames tail

/-! ## Containers that are read as they are -/

theorem ReadsBack.ofItems_self {items : List Tree} (h : ∀ t ∈ items, ReadsBack t t) :
    ReadsBack (.ofItems items) (.ofItems items) :=
  .ofItems (List.forall₂_same.2 h)

theorem ReadsBack.ofMembers_self {members : List (String × Tree)} (h : ∀ m ∈ members, ReadsBack m.2 m.2) :
    ReadsBack (.ofMembers members) (.ofMembers members) :=
  .ofMembers (List.forall₂_same.2 fun m hm => ⟨rfl, h m hm⟩)

end TermStructure.Json

import CommandShell.Proofs.History
import CommandShell.Proofs.Turns

/-!
# What single acts keep, runs keep

A session changes by a few acts only: bytes are written or the output is flushed, a diagnostic is
reported, a record is made, something else happens, the launcher is called, and the launcher and the
files become others.  No record of the interpreter is an error.  A relation that is
reflexive and transitive and holds of each of them (`Session.Kept`) holds of the sessions before and
after a command and before and after a whole run, and of later moments of a run and its end
(`Session.Kept.fromTurn_run`).
-/

namespace CommandShell

namespace Event

/-- The bytes that the output accepts in an event. -/
def printed : Event → Bytes
  | output bytes => bytes
  | _ => []

/-- Whether an event is neither output nor a record. -/
def isAside : Event → Bool
  | output _ | noted _ => false
  | _ => true

/-- The record that an event is about, if it is about one. -/
def noted? : Event → Option Record
  | noted r => some r
  | _ => none

/-- What is neither output nor a record is no record. -/
lemma noted?_of_isAside {e : Event} (h : e.isAside = true) : e.noted? = none := by
  cases e <;> first | rfl | cases h

/-- Only output is printed. -/
lemma printed_of_isAside {e : Event} (h : e.isAside = true) : e.printed = [] := by
  cases e <;> first | rfl | cases h

end Event

/-! ### Records of the interpreter -/

namespace Record

/-- Storing arguments makes no error. -/
lemma level_of_mem_growthRecords {args : ArgVector} {r : Record} (h : r ∈ args.growthRecords) :
    r.level ≠ .error := by
  obtain ⟨slots, -, rfl⟩ := List.mem_map.mp h
  exact Level.noConfusion

/-- What a buffer made of its room is no error. -/
lemma level_of_mem_growthList {buffer : GrowingBuffer UInt8} {r : Record}
    (h : r ∈ buffer.growthList.map LineRead.growthRecord) : r.level ≠ .error := by
  obtain ⟨bytes, -, rfl⟩ := List.mem_map.mp h
  exact Level.noConfusion

/-- Reading a line makes no error. -/
lemma level_of_mem_readLine {input : Input} {r : Record} (h : r ∈ input.readLine.records) :
    r.level ≠ .error := by
  rw [Input.readLine] at h
  generalize GrowingBuffer.empty LineRead.byteStep = buffer at h
  fun_induction LineRead.readOn buffer input with
  | case1 => exact level_of_mem_growthList h
  | case2 _ _ _ _ _ _ ih => exact ih h
  | case3 => exact level_of_mem_growthList h
  | case4 => exact level_of_mem_growthList h

/-- However a program ends is no error. -/
lemma level_ended (name : String) (outcome : Outcome) : (ended name outcome).level ≠ .error := by
  cases outcome with
  | exited status =>
    simp only [ended]
    split <;> exact Level.noConfusion
  | signaled signal => exact Level.noConfusion

end Record

namespace Session

variable {β σ τ ℓ : Type} [Sink σ]

/-- A relation that is reflexive and transitive and that holds of all that turns consist of beside
their commands. -/
structure KeptAround (R : Session σ τ ℓ → Session σ τ ℓ → Prop) : Prop where
  refl : ∀ s, R s s
  trans : ∀ {s t u}, R s t → R t u → R s u
  print : ∀ s bytes, R s (s.print bytes).2
  flush : ∀ s, R s s.flush.2
  asked : ∀ s, R s (s.happen .asked)
  /-- The interpreter makes a record, which is never an error. -/
  note : ∀ s r, r.level ≠ .error → R s (s.note r)

/-- A relation that holds of every single act as well. -/
structure Kept [Sink τ] [Launcher ℓ] (R : Session σ τ ℓ → Session σ τ ℓ → Prop) : Prop extends
    KeptAround R where
  offer : ∀ s bytes, R s (s.offer bytes).2
  report : ∀ s text, R s (s.report text)
  /-- Something happens that is neither output nor a record. -/
  happen : ∀ s e, e.isAside = true → R s (s.happen e)
  /-- The launcher is called and makes its own records, whatever they are. -/
  launch : ∀ s args, R s (s.launch args).2
  /-- The launcher and the files become others. -/
  replace : ∀ s launcher files, R s { s with launcher, files }

/-! ### Around commands -/

namespace KeptAround

variable {R : Session σ τ ℓ → Session σ τ ℓ → Prop} (h : KeptAround R)
include h

lemma noteAll (s : Session σ τ ℓ) {rs : List Record} (hrs : ∀ r ∈ rs, r.level ≠ .error) :
    R s (s.noteAll rs) := by
  induction rs generalizing s with
  | nil => exact h.refl s
  | cons r rs ih =>
    obtain ⟨hr, hrest⟩ := List.forall_mem_cons.mp hrs
    exact h.trans (h.note s r hr) (ih _ hrest)

lemma afterReading (s : Session σ τ ℓ) (input : Input) : R s (s.afterReading input) :=
  h.trans (h.asked s) (h.noteAll _ fun _ => Record.level_of_mem_readLine)

lemma recording (s : Session σ τ ℓ) (args : ArgVector) : R s (s.recording args) :=
  h.trans (h.noteAll s fun _ => Record.level_of_mem_growthRecords) (h.note _ _ Level.noConfusion)

lemma printTexts (s : Session σ τ ℓ) (texts : List String) : R s (s.printTexts texts).2 := by
  induction texts generalizing s with
  | nil => exact h.refl s
  | cons text rest ih =>
    have hfirst : R s (s.print (utf8 text)).2 := h.print s (utf8 text)
    rw [Session.printTexts]
    split
    · next heq => rwa [heq] at hfirst
    · next heq =>
      rw [heq] at hfirst
      exact h.trans hfirst (ih _)

lemma prompt (s : Session σ τ ℓ) (wanted : Bool) : R s (s.prompt wanted).2 := by
  have hprinted : R s s.printDirectory.2 := by
    rw [printDirectory]
    split
    · exact h.printTexts s _
    · exact h.refl s
  rw [Session.prompt]
  split
  · split
    · next heq => rwa [heq] at hprinted
    · next heq =>
      rw [heq] at hprinted
      exact h.trans hprinted (h.flush _)
  · exact h.refl s

variable {s s' : Session σ τ ℓ} {failure : Option IoError}

lemma of_prompt_eq {wanted : Bool} (hp : s.prompt wanted = (failure, s')) : R s s' := by
  have hprompt : R s (s.prompt wanted).2 := h.prompt s wanted
  rwa [hp] at hprompt

lemma of_flush_eq (hf : s.flush = (failure, s')) : R s s' := by
  have hflush : R s s.flush.2 := h.flush s
  rwa [hf] at hflush

end KeptAround

/-- Around commands nothing is done but to the streams and the history. -/
lemma keptAround_untouched : KeptAround (Untouched : Session σ τ ℓ → Session σ τ ℓ → Prop) where
  refl := .refl
  trans := .trans
  print := .print
  flush := .flush
  asked s := (Unmoved.happen s _).toUntouched
  note s r _ := (Unmoved.note s r).toUntouched

/-! ### Commands -/

namespace Kept

variable [Sink τ] [Launcher ℓ] {R : Session σ τ ℓ → Session σ τ ℓ → Prop} (h : Kept R)
include h

lemma written (s : Session σ τ ℓ) (pieces : List (Channel × Bytes)) :
    R s (pieces.foldl (fun s w => s.happen (.written w.1 w.2)) s) := by
  induction pieces generalizing s with
  | nil => exact h.refl s
  | cons w rest ih => exact h.trans (h.happen s _ rfl) (ih _)

lemma takeAccess {α : Type} (s : Session σ τ ℓ) (r : AccessReport ℓ α) : R s (s.takeAccess r) :=
  h.trans (h.replace s r.launcher r.files) (h.written _ r.written)

lemma flushBeforeLaunch (s : Session σ τ ℓ) (name : String) : R s (s.flushBeforeLaunch name) := by
  rw [Session.flushBeforeLaunch]
  split
  · next heq => exact h.of_flush_eq heq
  · next heq => exact h.trans (h.of_flush_eq heq) (h.note _ _ Level.noConfusion)

lemma handler (c : Handler) (s : Session σ τ ℓ) : R s (c.run s).2 :=
  Handler.run_rel h.refl h.trans h.print h.offer h.flush (fun s _ => h.takeAccess s _)
    (fun s _ => h.takeAccess s _) (fun s f => h.replace s s.launcher (f s.files)) c s

lemma runProgram (s : Session σ τ ℓ) (name : Bytes) (args : ArgVector) :
    R s (s.runProgram name args) := by
  have hcalled := h.trans (h.trans (h.flushBeforeLaunch s (Text.display name))
    (h.note _ (.launching args) Level.noConfusion)) (h.launch _ args)
  rcases s.runProgram_cases name args with heq | ⟨outcome, heq⟩ | ⟨e, heq⟩
  · exact heq ▸ hcalled
  · exact heq ▸ h.trans hcalled (h.note _ _ (Record.level_ended _ _))
  · exact heq ▸ h.trans hcalled (h.report _ _)

variable [HasHandler β]

lemma runBuiltin (s : Session σ τ ℓ) (b : β) (args : ArgVector) :
    R s (s.runBuiltin b args).2 := by
  have hhandler : R s ((HasHandler.handler b args).run s).2 := h.handler _ s
  rw [Session.runBuiltin]
  split
  · next heq => rwa [heq] at hhandler
  · next heq =>
    rw [heq] at hhandler
    exact h.trans hhandler (h.report _ _)

lemma execute (table : Table β) (args : ArgVector) (s : Session σ τ ℓ) :
    R s (s.execute table args).2 := by
  rw [Session.execute]
  cases args.command? with
  | none => exact h.refl s
  | some name =>
    simp only
    cases table.builtin? name with
    | none => exact h.runProgram s name args
    | some b => exact h.trans (h.note s _ Level.noConfusion) (h.runBuiltin _ b args)

lemma executeLine (table : Table β) (line : Bytes) (s : Session σ τ ℓ) :
    R s (s.executeLine table line).2 :=
  h.trans (h.recording s _) (h.execute table _ _)

end Kept

/-! ### Runs -/

variable [Sink τ] [Launcher ℓ] [HasHandler β]

/-- A relation of the moments of a turn to a session: of the moment after its prompt, and of that
after its command, if it comes to one. -/
structure FromTurn (R : Session σ τ ℓ → Session σ τ ℓ → Prop) (table : Table β) (prompting : Bool)
    (input : Input) (s t : Session σ τ ℓ) : Prop where
  prompt : R (s.prompt prompting).2 t
  command : ∀ s' line, s.prompt prompting = (none, s') → input.readLine.result = .line line →
    R ((s'.afterReading input).executeLine table line).2 t

namespace Kept

variable {R : Session σ τ ℓ → Session σ τ ℓ → Prop} (h : Kept R)
include h

variable {table : Table β} {prompting : Bool} {input : Input} {s s' t : Session σ τ ℓ}

/-- A prompt that fails ends its turn. -/
lemma fromTurn_of_prompt {e : IoError} (prompted : s.prompt prompting = (some e, t)) :
    FromTurn R table prompting input s t := by
  refine ⟨?_, fun s' line hprompt _ => ?_⟩
  · rw [prompted]
    exact h.refl t
  · rw [prompted] at hprompt
    cases hprompt

/-- A turn that reads no line has no command. -/
lemma fromTurn_of_reading (prompted : s.prompt prompting = (none, s'))
    (hread : ∀ line, input.readLine.result ≠ .line line) (hrest : R (s'.afterReading input) t) :
    FromTurn R table prompting input s t := by
  refine ⟨?_, fun _ line _ hline => absurd hline (hread line)⟩
  rw [prompted]
  exact h.trans (h.afterReading s' input) hrest

/-- What is related to the moment after the command is related to the one after the prompt, too. -/
lemma fromTurn_of_command {line : Bytes} (prompted : s.prompt prompting = (none, s'))
    (read : input.readLine.result = .line line)
    (hrest : R ((s'.afterReading input).executeLine table line).2 t) :
    FromTurn R table prompting input s t := by
  refine ⟨?_, fun s'' line' hprompt hline => ?_⟩
  · rw [prompted]
    exact h.trans (h.trans (h.afterReading s' input) (h.executeLine table line _)) hrest
  · rw [prompted] at hprompt
    rw [read] at hline
    cases hprompt
    cases hline
    exact hrest

/-- The end of a run is related to the later moments of its first turn, too. -/
theorem fromTurn_run (table : Table β) (prompting : Bool) (input : Input) (s : Session σ τ ℓ) :
    FromTurn R table prompting input s (s.run table prompting input).session := by
  refine run_induction table prompting (motive := fun i s r =>
    FromTurn R table prompting i s r.session) ?_ ?_ ?_ input s
  · intro i s e j t hbreak
    cases hbreak with
    | promptWrite wanted unwritten =>
      exact h.fromTurn_of_prompt (prompt_of_unwritten wanted unwritten)
    | promptFlush wanted written unflushed =>
      exact h.fromTurn_of_prompt (prompt_of_unflushed wanted written unflushed)
    | read prompted unread =>
      exact h.fromTurn_of_reading prompted (fun _ hline => by simp [unread] at hline) (h.refl _)
    | commandFlush prompted read executed alive unflushed =>
      refine h.fromTurn_of_command prompted read ?_
      rw [executed]
      exact h.of_flush_eq unflushed
  · intro i s j t hfinish
    cases hfinish with
    | ended prompted ended =>
      exact h.fromTurn_of_reading prompted (fun _ hline => by simp [ended] at hline)
        (h.note _ _ Level.noConfusion)
    | stopped prompted read executed alive flushed =>
      refine h.fromTurn_of_command prompted read ?_
      rw [executed]
      exact h.trans (h.of_flush_eq flushed) (h.note _ _ Level.noConfusion)
    | departed prompted read executed dead =>
      refine h.fromTurn_of_command prompted read ?_
      rw [executed]
      exact h.refl t
  · rintro i s j t ⟨prompted, read, executed, alive, flushed⟩ ih
    refine h.fromTurn_of_command prompted read ?_
    rw [executed]
    exact h.trans (h.of_flush_eq flushed) (h.trans (h.prompt t prompting) ih.prompt)

/-- The end of a run is related to its beginning. -/
theorem run (table : Table β) (prompting : Bool) (input : Input) (s : Session σ τ ℓ) :
    R s (s.run table prompting input).session :=
  h.trans (h.prompt s prompting) (h.fromTurn_run table prompting input s).prompt

end Kept

end Session

end CommandShell

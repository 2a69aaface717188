import GpuDriver.Proofs.InProcess.Image
import GpuDriver.Proofs.InProcess.Integrity
import GpuDriver.Proofs.Ptx.Loss

/-!
# What a link keeps

A link session joins the texts that it has accepted. What comes out is read again as one text, so that
what one text leaves open reaches into the next. If every text but the last is complete, then the image is
a module and defines what the texts define, in their order; and no weaker condition on a text alone will
do (`completeLink_lossless`).
-/

namespace GpuDriver.InProcess

open State

/-! ### The joined text -/

/-- What the inputs of a session define, in order. -/
def linkedSymbols (inputs : List LinkInput) : Ptx.Symbols where
  entries := linkedEntries inputs
  globals := inputs.flatMap fun input => (Ptx.symbols input.text).globals

theorem linkedText_cons (input : LinkInput) (rest : List LinkInput) :
    linkedText (input :: rest) = input.text ++ "\n" ++ linkedText rest := by
  simp [linkedText, String.join_cons]

theorem linkedSymbols_cons (input : LinkInput) (rest : List LinkInput) :
    linkedSymbols (input :: rest) = Ptx.symbols input.text ++ linkedSymbols rest := by
  simp [linkedSymbols, linkedEntries, Ptx.Symbols.append_def]

theorem getLast?_linkedText {inputs : List LinkInput} (h : inputs ≠ []) :
    (linkedText inputs).toList.getLast? = some '\n' := by
  induction inputs with
  | nil => exact absurd rfl h
  | cons input rest ih =>
    rw [linkedText_cons]
    by_cases hrest : rest = []
    · simp [hrest, linkedText]
    · rw [String.toList_append, List.getLast?_append, ih hrest, Option.some_or]

/-- **Joining modules** gives a module that defines what they define, if all but the last are complete. -/
theorem linkedText_of_complete {inputs : List LinkInput} (h : inputs ≠ [])
    (valid : ∀ input ∈ inputs, Ptx.isModule input.text = true)
    (complete : ∀ input ∈ inputs.dropLast, Ptx.Complete input.text) :
    Ptx.isModule (linkedText inputs) = true ∧
      Ptx.symbols (linkedText inputs) = linkedSymbols inputs := by
  induction inputs with
  | nil => exact absurd rfl h
  | cons input rest ih =>
    obtain ⟨hinput, hrest⟩ := List.forall_mem_cons.1 valid
    by_cases hnil : rest = []
    · subst hnil
      have htext : linkedText [input] = input.text ++ "\n" := by simp [linkedText]
      rw [htext, Ptx.isModule_newline, Ptx.symbols_newline]
      exact ⟨hinput, by simp [linkedSymbols, linkedEntries]⟩
    · rw [List.dropLast_cons_of_ne_nil hnil] at complete
      obtain ⟨hfirst, hothers⟩ := List.forall_mem_cons.1 complete
      obtain ⟨hmodule, hsymbols⟩ := ih hnil hrest hothers
      rw [linkedText_cons, linkedSymbols_cons, ← hsymbols]
      exact ⟨Ptx.isModule_append hinput hmodule hfirst.comment, hfirst.symbols_append _⟩

/-! ### Sessions -/

/-- Every session holds modules only. -/
def Sessions (s : State) : Prop :=
  ∀ l inputs, s.links.get? l = some inputs → ∀ input ∈ inputs, Ptx.isModule input.text = true

theorem Sessions.insert {s : State} (hs : Sessions s) {l : Handle} {inputs : List LinkInput}
    (valid : ∀ input ∈ inputs, Ptx.isModule input.text = true) :
    Sessions { s with links := s.links.insert l inputs } := by
  intro k held hk
  by_cases hkl : k = l
  · subst hkl
    obtain rfl : inputs = held := by simpa [Table.get?_insert_self] using hk
    exact valid
  · exact hs k held (by simpa [Table.get?_insert_of_ne hkl] using hk)

theorem Sessions.change {t : ThreadId} {s s' : State} {c : Driver.Call} (hs : Sessions s)
    (hc : Change t s c s') : Sessions s' := by
  cases hc with
  | beginLink up => exact hs.insert (by simp)
  | extendLink up alive read valid =>
    refine hs.insert fun input hinput => ?_
    obtain h | rfl := (List.mem_append.1 hinput).imp_right List.mem_singleton.1
    · exact hs _ _ alive input h
    · exact valid
  | endLink up alive =>
    intro k held hk
    exact hs k held (Table.get?_erase_eq_some_iff.1 hk).2
  | nothing | memory | start | retainAgain | retainFirst | releaseOne | releaseLast | pop | replace
  | create | destroyTop | destroyOther | load | unload | launch => exact hs

/-- **Every session of every run holds modules only.** -/
theorem sessions_run (devices : Int) (capability : Int × Int) (es : List Event) :
    Sessions ((fresh devices capability).run es) :=
  run_induction_change (fun _ _ _ _ hs hc => hs.change hc)
    (fun _ _ h => absurd h (by simp [fresh, Table.get?, Table.empty])) es

/-! ### What a link keeps -/

/-- The image holds a module that defines what the inputs define, in their order. -/
def Lossless (inputs : List LinkInput) (image : Bytes) : Prop :=
  ∃ text, imageText? image = some text ∧ Ptx.isModule text = true ∧
    Ptx.symbols text = linkedSymbols inputs

/-- Every session accepts the image, whatever it is said to be, and every thread with a current context
loads it unless device memory runs out. -/
def Usable (image : Bytes) : Prop :=
  ∀ s : State,
    (∀ l inputs kind name, s.link l = .ok inputs →
      ∃ s', s.addLinkInput l kind image name = (.ok (), s')) ∧
    ∀ t c, s.current t = .ok c →
      (s.loadImage t image).1 = .error .outOfMemory ∨ ∃ m, (s.loadImage t image).1 = .ok m

section Image

variable {s : State} {l : Handle} {inputs : List LinkInput} {image : Bytes} {text : String}

theorem ne_nil_of_imageText? (read : imageText? image = some text) : image ≠ [] := by
  rintro rfl
  have hdecode : Utf8.decode? [] = some "" := Utf8.decode?_encode ""
  rw [imageText?, List.reverse_nil, List.dropWhile_nil, List.reverse_nil, hdecode] at read
  cases read

theorem addLinkInput_of_isModule (up : s.initialized = true) (alive : s.links.get? l = some inputs)
    (read : imageText? image = some text) (valid : Ptx.isModule text = true) (kind : ImageKind)
    (name : Bytes) : s.addLinkInput l kind image name = (.ok (), { s with
      links := s.links.insert l (inputs ++ [⟨kind, Utf8.decodeLossy name, text⟩]) }) :=
  addLinkInput_eq_ok_iff.2 ⟨up, inputs, text, alive, ne_nil_of_imageText? read, read, valid, rfl⟩

theorem usable_of_isModule (read : imageText? image = some text)
    (valid : Ptx.isModule text = true) : Usable image := by
  intro s
  constructor
  · intro l inputs kind name alive
    obtain ⟨up, alive⟩ := link_eq_ok_iff.1 alive
    exact ⟨_, addLinkInput_of_isModule up alive read valid kind name⟩
  · intro t c current
    simp only [loadImage, current, read, valid, if_true]
    split
    · exact Or.inl rfl
    · exact Or.inr ⟨_, rfl⟩

/-- A joined text is read back from its image if it is a module, and else nothing is. -/
theorem imageText?_linkedText (h : inputs ≠ []) :
    imageText? (Utf8.encode (linkedText inputs)) = none ∨
      imageText? (Utf8.encode (linkedText inputs)) = some (linkedText inputs) := by
  rw [imageText?_encode (by rw [getLast?_linkedText h]; decide)]
  split
  · exact Or.inl rfl
  · exact Or.inr rfl

theorem lossless_of_linkedText (h : inputs ≠ []) (valid : Ptx.isModule (linkedText inputs) = true)
    (hsymbols : Ptx.symbols (linkedText inputs) = linkedSymbols inputs) :
    Lossless inputs (Utf8.encode (linkedText inputs)) ∧
      Usable (Utf8.encode (linkedText inputs)) := by
  have read : imageText? (Utf8.encode (linkedText inputs)) = some (linkedText inputs) :=
    imageText?_encode_of_isModule valid (getLast?_linkedText h)
  exact ⟨⟨_, read, valid, hsymbols⟩, usable_of_isModule read valid⟩

/-- A loss across the seam of two inputs is a loss of the link. -/
theorem not_lossless_of_loses (first second : LinkInput)
    (h : Ptx.Loses first.text second.text) :
    ¬ Lossless [first, second] (Utf8.encode (linkedText [first, second])) := by
  rintro ⟨text, read, -, hsymbols⟩
  obtain hnone | hsome := imageText?_linkedText (List.cons_ne_nil first [second])
  · rw [hnone] at read
    cases read
  rw [hsome, Option.some.injEq] at read
  subst read
  have htext : linkedText [first, second] = first.text ++ "\n" ++ second.text ++ "\n" := by
    simp [linkedText, String.join, String.append_assoc]
  have hlinked : linkedSymbols [first, second] =
      Ptx.symbols first.text ++ Ptx.symbols second.text := by
    simp [linkedSymbols, linkedEntries, Ptx.Symbols.append_def]
  rw [htext, Ptx.symbols_newline, hlinked] at hsymbols
  exact h hsymbols

/-- A session with one incomplete input accepts one more after which the link loses something. -/
theorem exists_lossy_input {first : LinkInput} (up : s.initialized = true)
    (alive : s.links.get? l = some [first]) (distinct : (linkedEntries [first]).Nodup)
    (h : ¬ Ptx.Complete first.text) :
    ∃ data, ∀ kind name, ∃ s' second image',
      s.addLinkInput l kind data name = (.ok (), s') ∧
        s'.links.get? l = some [first, second] ∧ s'.completeLink l = .ok image' ∧
          ¬ Lossless [first, second] image' := by
  obtain ⟨u, linkable, loses⟩ := Ptx.exists_loses h
  have read : imageText? (Utf8.encode u) = some u :=
    imageText?_encode_of_isModule linkable.valid linkable.ending
  refine ⟨Utf8.encode u, fun kind name => ⟨_, ⟨kind, Utf8.decodeLossy name, u⟩, _,
    addLinkInput_of_isModule up alive read linkable.valid kind name, ?_,
    completeLink_eq_ok_iff.2 ⟨up, _, Table.get?_insert_self .., ?_, ?_, rfl⟩,
    not_lossless_of_loses _ _ loses⟩⟩
  · exact Table.get?_insert_self ..
  · exact List.cons_ne_nil _ _
  · have hfirst : (Ptx.symbols first.text).entries.Nodup := by simpa [linkedEntries] using distinct
    simp only [linkedEntries, List.cons_append, List.nil_append, List.flatMap_cons,
      List.flatMap_nil, List.append_nil]
    exact List.nodup_append.2 ⟨hfirst, linkable.nodup, fun a ha b hb hab =>
      linkable.distinct b hb (hab ▸ ha)⟩

end Image

/-- **A link loses nothing if every input but the last is complete.** Then the image is a module that
defines what the inputs define, in their order, and can be loaded and linked again. The condition cannot be
made weaker: a session with a single input that is not complete accepts another one after which it
completes with a loss. -/
theorem completeLink_lossless (devices : Int) (capability : Int × Int) (es : List Event) (l : Handle)
    (inputs : List LinkInput) (image : Bytes)
    (session : ((fresh devices capability).run es).links.get? l = some inputs)
    (done : ((fresh devices capability).run es).completeLink l = .ok image) :
    ((∀ input ∈ inputs.dropLast, Ptx.Complete input.text) → Lossless inputs image ∧ Usable image) ∧
      ∀ first, inputs = [first] → ¬ Ptx.Complete first.text →
        ∃ data, ∀ kind name, ∃ s' second image',
          ((fresh devices capability).run es).addLinkInput l kind data name = (.ok (), s') ∧
            s'.links.get? l = some [first, second] ∧ s'.completeLink l = .ok image' ∧
              ¬ Lossless [first, second] image' := by
  obtain ⟨up, held, hheld, hne, distinct, rfl⟩ := completeLink_eq_ok_iff.1 done
  obtain rfl : inputs = held := Option.some.inj (session.symm.trans hheld)
  constructor
  · intro complete
    obtain ⟨hmodule, hsymbols⟩ :=
      linkedText_of_complete hne (sessions_run devices capability es l inputs session) complete
    exact lossless_of_linkedText hne hmodule hsymbols
  · rintro first rfl hfirst
    exact exists_lossy_input up session distinct hfirst

/-! ### Two links -/

/-- A text is handed to the first link session. -/
def addText (text : String) : Event := ⟨0, {}, .addLinkInput 0x1200 .ptx (Utf8.encode text) []⟩

/-- A run that begins a link session and hands it texts. -/
def linkRun (texts : List String) : List Event :=
  [⟨0, {}, .init 0⟩, ⟨0, {}, .createContext 0 ⟨0⟩⟩, ⟨0, {}, .createLink⟩] ++ texts.map addText

/-- What a session holds that is handed texts. -/
def asInputs (texts : List String) : List LinkInput := texts.map fun text => ⟨.ptx, "", text⟩

theorem links_run_addText {texts : List String}
    (valid : ∀ text ∈ texts, Ptx.isModule text = true ∧ ∃ front, text = front ++ "\n") {s : State}
    {inputs : List LinkInput} (up : s.initialized = true)
    (alive : s.links.get? 0x1200 = some inputs) :
    (s.run (texts.map addText)).initialized = true ∧
      (s.run (texts.map addText)).links.get? 0x1200 = some (inputs ++ asInputs texts) := by
  induction texts generalizing s inputs with
  | nil => exact ⟨up, by simpa [asInputs] using alive⟩
  | cons text rest ih =>
    obtain ⟨⟨hmodule, front, rfl⟩, hrest⟩ := List.forall_mem_cons.1 valid
    have hadd := addLinkInput_of_isModule up alive (imageText?_encode_of_isModule hmodule (by simp)) hmodule
      .ptx []
    have hname : Utf8.decodeLossy [] = "" := Utf8.decodeLossy_encode ""
    have hafter : s.after (addText (front ++ "\n")) = { s with
        links := s.links.insert 0x1200 (inputs ++ [⟨.ptx, "", front ++ "\n"⟩]) } := by
      rw [← hname]
      exact congrArg Prod.snd hadd
    have hlinks : (s.after (addText (front ++ "\n"))).links.get? 0x1200 =
        some (inputs ++ [⟨.ptx, "", front ++ "\n"⟩]) := by
      rw [hafter]
      exact Table.get?_insert_self ..
    have hup : (s.after (addText (front ++ "\n"))).initialized = true := by
      rw [hafter]
      exact up
    simpa [asInputs] using ih hrest hup hlinks

/-- A session that was handed modules that end with their lines joins them if it can. -/
theorem completeLink_linkRun (texts : List String) (h : texts ≠ [])
    (valid : ∀ text ∈ texts, Ptx.isModule text = true ∧ ∃ front, text = front ++ "\n")
    (distinct : (linkedEntries (asInputs texts)).Nodup) :
    ((fresh 1 (7, 0)).run (linkRun texts)).links.get? 0x1200 = some (asInputs texts) ∧
      ((fresh 1 (7, 0)).run (linkRun texts)).completeLink 0x1200 =
        .ok (Utf8.encode (linkedText (asInputs texts))) := by
  have begun : ((fresh 1 (7, 0)).run (linkRun [])).links.get? 0x1200 = some [] := rfl
  obtain ⟨up, alive⟩ := links_run_addText valid rfl begun
  have hrun : (fresh 1 (7, 0)).run (linkRun texts) =
      ((fresh 1 (7, 0)).run (linkRun [])).run (texts.map addText) := run_append ..
  rw [hrun]
  exact ⟨alive, completeLink_eq_ok_iff.2 ⟨up, _, alive, by simpa [asInputs] using h, distinct, rfl⟩⟩

theorem complete_octetModule : Ptx.Complete Ptx.octetModule := by
  have hbody : Ptx.bodyOf Ptx.octetModule = Ptx.octetModule.toList :=
    Ptx.bodyOf_of_mem (by decide)
  constructor
  · decide
  all_goals
    rw [hbody]
    decide

theorem imageText?_kernelModule :
    imageText? (Utf8.encode (Ptx.kernelModule 0)) = some (Ptx.kernelModule 0) :=
  imageText?_encode_of_isModule (Ptx.isModule_kernelModule 0) (Ptx.getLast?_kernelModule 0)

/-- A module that declares a variable and one that defines a kernel are linked without a loss. -/
theorem completeLink_lossless_two :
    let inputs := asInputs [Ptx.octetModule, Ptx.kernelModule 0]
    let s := (fresh 1 (7, 0)).run (linkRun [Ptx.octetModule, Ptx.kernelModule 0])
    s.links.get? 0x1200 = some inputs ∧
      s.completeLink 0x1200 = .ok (Utf8.encode (linkedText inputs)) ∧
        Lossless inputs (Utf8.encode (linkedText inputs)) := by
  intro inputs s
  have hoctet : (Ptx.symbols Ptx.octetModule).entries = [] := Ptx.entries_of_mem (by decide)
  have hkernel : (Ptx.symbols (Ptx.kernelModule 0)).entries = ["k"] := by
    rw [Ptx.symbols_kernelModule]
  have hoctetModule := (Ptx.linkable_of_mem (u := Ptx.octetModule) (by decide) "").valid
  obtain ⟨session, done⟩ := completeLink_linkRun [Ptx.octetModule, Ptx.kernelModule 0] (by simp)
    (by
      simp only [List.forall_mem_cons, List.not_mem_nil, false_implies, implies_true, and_true]
      exact ⟨⟨hoctetModule, ".global .b8 x;\n.version 7.0\n.target sm_70", rfl⟩,
        Ptx.isModule_kernelModule 0, ".version 7.0\n.target sm_70\n.entry k", rfl⟩)
    (by simp [linkedEntries, asInputs, hoctet, hkernel])
  exact ⟨session, done, ((completeLink_lossless 1 (7, 0) _ _ _ _ session done).1
    (by simpa [inputs, asInputs] using complete_octetModule)).1⟩

/-- A module that begins a comment and does not end it. -/
def openModule : String := ".version 7.0\n.target sm_70\n/*\n"

/-- A link can lose something: a comment that the first text leaves open hides the second. -/
theorem exists_lossy_link :
    ¬ ∀ (devices : Int) (capability : Int × Int) (es : List Event) (l : Handle)
      (inputs : List LinkInput) (image : Bytes),
      ((fresh devices capability).run es).links.get? l = some inputs →
        ((fresh devices capability).run es).completeLink l = .ok image → Lossless inputs image := by
  intro h
  have hbody : Ptx.bodyOf openModule = ".version 7.0\n.target sm_70\n ".toList := by
    rw [Ptx.bodyOf_eq]
    decide
  have hopen : (Ptx.symbols openModule).entries = [] := by
    rw [Ptx.symbols_eq, hbody]
    decide
  have hopenModule : Ptx.isModule openModule = true := by
    rw [Ptx.isModule_eq, hbody]
    decide
  have hoctet : (Ptx.symbols Ptx.octetModule).entries = [] := Ptx.entries_of_mem (by decide)
  have hoctetModule := (Ptx.linkable_of_mem (u := Ptx.octetModule) (by decide) "").valid
  obtain ⟨session, done⟩ := completeLink_linkRun [openModule, Ptx.octetModule] (by simp)
    (by
      simp only [List.forall_mem_cons, List.not_mem_nil, false_implies, implies_true, and_true]
      exact ⟨⟨hopenModule, ".version 7.0\n.target sm_70\n/*", rfl⟩,
        hoctetModule, ".global .b8 x;\n.version 7.0\n.target sm_70", rfl⟩)
    (by simp [linkedEntries, asInputs, hopen, hoctet])
  exact not_lossless_of_loses ⟨.ptx, "", openModule⟩ ⟨.ptx, "", Ptx.octetModule⟩
    (Ptx.loses_of_comment (by decide)) (h 1 (7, 0) _ _ _ _ session done)

end GpuDriver.InProcess

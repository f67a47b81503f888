import HostStatus.Proofs.Rearrangement
import HostStatus.Stats.Reader

/-!
# Forms of published statistics

Statistics are the same in all texts that differ in the order of members, in members that no field
is named as, in blanks, and in whether records are objects or arrays. Usages inside of statistics
may be rearranged in the same ways.
-/

namespace HostStatus

open Json

variable {tree tree' : Tree}

namespace UsageStats

/-- Values of fields stay as they are. -/
def Rearranged : Tree → Tree → Prop :=
  reader.Rearranged fun _ _ _ => False

theorem reader_commutes : reader.Commutes where
  keys := by decide
  empty := by simp [reader, FieldReader.ofOption]
  fills := by
    simp only [reader, List.forall_mem_cons, List.not_mem_nil, false_imp_iff, implies_true,
      and_true]
    refine ⟨fun draft tree next h => ?_, fun draft tree next h => ?_, fun draft tree next h => ?_⟩
    all_goals
      obtain ⟨x, -, rfl⟩ := FieldReader.evaluate_ofOption.1 h
      simp [FieldReader.ofOption]
  swaps := by
    intro field hfield other hother hkey draft tree tree' next final h h'
    simp only [reader, List.mem_cons, List.not_mem_nil, or_false] at hfield hother
    rcases hfield with rfl | rfl | rfl <;> rcases hother with rfl | rfl | rfl <;>
      first
      | exact absurd rfl hkey
      | exact FieldReader.ofOption_swaps (fun _ _ _ => rfl) h h'

theorem reader_keeps : reader.Keeps fun _ _ _ => False where
  wellFormed _ _ _ h := h.elim
  evaluate _ _ _ _ _ _ h := h.elim

theorem reader_fieldsRead (tree : Tree) : reader.FieldsRead tree := by
  simp only [RecordReader.FieldsRead, reader, List.forall_mem_cons, List.not_mem_nil, false_imp_iff,
    implies_true, and_true]
  exact ⟨FieldReader.ofOption_readsTree (readString_readsTree tree),
    FieldReader.ofOption_readsTree (readString_readsTree tree),
    FieldReader.ofOption_readsTree (readSingle_readsTree tree)⟩

theorem reader_finds : ∀ field ∈ reader.fields, ∀ draft, Finds (field.read draft) := by
  simp only [reader, List.forall_mem_cons, List.not_mem_nil, false_imp_iff, implies_true, and_true]
  exact ⟨FieldReader.ofOption_finds readString_finds, FieldReader.ofOption_finds readString_finds,
    FieldReader.ofOption_finds readSingle_finds⟩

theorem evaluate_read (htree : tree.WellFormed) : evaluate reader.read tree = reader.ofTree tree :=
  RecordReader.evaluate_read htree fun child _ => reader_fieldsRead child

theorem evaluate_rearranged (h : Rearranged tree tree') (htree : tree.WellFormed) {u : UsageStats}
    (hu : evaluate reader.read tree = .ok u) : evaluate reader.read tree' = .ok u := by
  rw [evaluate_read htree] at hu
  rw [evaluate_read (h.wellFormed reader_keeps htree)]
  exact h.ofTree reader_commutes reader_keeps htree hu

end UsageStats

namespace SystemStats

/-- The usages may be rearranged as well. -/
def Rearranged : Tree → Tree → Prop :=
  reader.Rearranged fun name tree tree' =>
    (name = "memory" ∨ name = "disk") ∧ UsageStats.Rearranged tree tree'

theorem reader_commutes : reader.Commutes where
  keys := by decide
  empty := by simp [reader, FieldReader.ofOption]
  fills := by
    simp only [reader, List.forall_mem_cons, List.not_mem_nil, false_imp_iff, implies_true,
      and_true]
    refine ⟨fun draft tree next h => ?_, fun draft tree next h => ?_, fun draft tree next h => ?_,
      fun draft tree next h => ?_⟩
    all_goals
      obtain ⟨x, -, rfl⟩ := FieldReader.evaluate_ofOption.1 h
      simp [FieldReader.ofOption]
  swaps := by
    intro field hfield other hother hkey draft tree tree' next final h h'
    simp only [reader, List.mem_cons, List.not_mem_nil, or_false] at hfield hother
    rcases hfield with rfl | rfl | rfl | rfl <;> rcases hother with rfl | rfl | rfl | rfl <;>
      first
      | exact absurd rfl hkey
      | exact FieldReader.ofOption_swaps (fun _ _ _ => rfl) h h'

theorem reader_keeps : reader.Keeps fun name tree tree' =>
    (name = "memory" ∨ name = "disk") ∧ UsageStats.Rearranged tree tree' where
  wellFormed _ _ _ h htree := h.2.wellFormed UsageStats.reader_keeps htree
  evaluate := by
    intro field hfield draft tree tree' next h htree hread
    simp only [reader, List.mem_cons, List.not_mem_nil, or_false] at hfield
    rcases hfield with rfl | rfl | rfl | rfl
    · exact absurd h.1 (by simp [FieldReader.ofOption])
    · exact absurd h.1 (by simp [FieldReader.ofOption])
    · obtain ⟨u, hu, rfl⟩ := FieldReader.evaluate_ofOption.1 hread
      exact FieldReader.evaluate_ofOption.2 ⟨u, UsageStats.evaluate_rearranged h.2 htree hu, rfl⟩
    · obtain ⟨u, hu, rfl⟩ := FieldReader.evaluate_ofOption.1 hread
      exact FieldReader.evaluate_ofOption.2 ⟨u, UsageStats.evaluate_rearranged h.2 htree hu, rfl⟩

theorem reader_fieldsRead (tree : Tree) : reader.FieldsRead tree := by
  have husage : ReadsTree UsageStats.reader.read tree :=
    RecordReader.read_readsTree fun child _ => UsageStats.reader_fieldsRead child
  simp only [RecordReader.FieldsRead, reader, List.forall_mem_cons, List.not_mem_nil, false_imp_iff,
    implies_true, and_true]
  exact ⟨FieldReader.ofOption_readsTree (readString_readsTree tree),
    FieldReader.ofOption_readsTree (readSingle_readsTree tree),
    FieldReader.ofOption_readsTree husage, FieldReader.ofOption_readsTree husage⟩

theorem reader_finds : ∀ field ∈ reader.fields, ∀ draft, Finds (field.read draft) := by
  have husage : Finds UsageStats.reader.read := RecordReader.read_finds UsageStats.reader_finds
  simp only [reader, List.forall_mem_cons, List.not_mem_nil, false_imp_iff, implies_true, and_true]
  exact ⟨FieldReader.ofOption_finds readString_finds, FieldReader.ofOption_finds readSingle_finds,
    FieldReader.ofOption_finds husage, FieldReader.ofOption_finds husage⟩

end SystemStats

/-! ## Texts of one reading -/

theorem isLeaf_quoted {s : String} (h : s.toList.flatMap escapeChar = s.toList) :
    IsLeaf ('"' :: (s.toList ++ ['"'])) :=
  .string (h ▸ (spellsString_escaped s.toList).passed)

theorem isLeaf_count : IsLeaf "25".toList :=
  .numeral (n := ⟨false, "25".toList, [], none⟩)
    ⟨by decide, digits_of_all rfl, by decide, digits_of_all rfl, [], .none, rfl⟩

namespace UsageStats

def writtenMembers : List (List Char × Tree) :=
  [("total".toList, .leaf "\"8 GB\"".toList), ("used".toList, .leaf "\"2 GB\"".toList),
    ("percent".toList, .leaf "25".toList)]

theorem writtenMembers_inOrder : RecordReader.InOrder reader.fields writtenMembers :=
  .cons (spellsString_escaped _)
    (.cons (spellsString_escaped _) (.cons (spellsString_escaped _) .nil))

theorem writtenMembers_wellFormed : (Tree.object writtenMembers).WellFormed := by
  refine .object (RecordReader.passedString_of_fields writtenMembers_inOrder) ?_
  simp only [writtenMembers, List.forall_mem_cons]
  exact ⟨.leaf (isLeaf_quoted (s := "8 GB") rfl), .leaf (isLeaf_quoted (s := "2 GB") rfl),
    .leaf isLeaf_count, List.forall_mem_nil _⟩

end UsageStats

namespace SystemStats

/-- With a member that is ignored, and that could not be read. -/
def writtenMembers (memory : Tree) : List (List Char × Tree) :=
  [("note".toList, .leaf "\"\\ud800\"".toList), ("platform".toList, .leaf "\"Linux\"".toList),
    ("cpu_percent".toList, .leaf "25".toList), ("memory".toList, memory),
    ("disk".toList, .array (UsageStats.writtenMembers.map Prod.snd))]

theorem writtenMembers_wellFormed :
    (Tree.object (writtenMembers (.object UsageStats.writtenMembers))).WellFormed := by
  have hkey (key : String) (h : key.toList.flatMap escapeChar = key.toList) :
      PassedString key.toList := h ▸ (spellsString_escaped key.toList).passed
  have hhalf : IsLeaf "\"\\ud800\"".toList := .string (.cons (.numbered (by decide)) .nil)
  have husage := Tree.wellFormed_object.1 UsageStats.writtenMembers_wellFormed
  have hdisk := Tree.wellFormed_array.2 (List.forall_mem_map.2 fun member h => (husage member h).2)
  rw [Tree.wellFormed_object]
  simp only [writtenMembers, List.forall_mem_cons]
  exact ⟨⟨hkey _ rfl, .leaf hhalf⟩, ⟨hkey _ rfl, .leaf (isLeaf_quoted (s := "Linux") rfl)⟩,
    ⟨hkey _ rfl, .leaf isLeaf_count⟩, ⟨hkey _ rfl, UsageStats.writtenMembers_wellFormed⟩,
    ⟨hkey _ rfl, hdisk⟩, List.forall_mem_nil _⟩

/-- A usage becomes an array, a member is put in, and all change places. -/
theorem writtenMembers_rearranged :
    Rearranged (.object (writtenMembers (.object UsageStats.writtenMembers)))
      (.object (("tags".toList, .array [.object []]) ::
        writtenMembers (.array (UsageStats.writtenMembers.map Prod.snd))).reverse) := by
  have hmemory : Rearranged (.object (writtenMembers (.object UsageStats.writtenMembers)))
      (.object (writtenMembers (.array (UsageStats.writtenMembers.map Prod.snd)))) :=
    .inMember ((writtenMembers (.object [])).take 3) ((writtenMembers (.object [])).drop 4)
      (spellsString_escaped "memory".toList) ⟨.inl rfl, .toArray UsageStats.writtenMembers_inOrder⟩
  have htags : (Tree.array [.object []]).WellFormed := by
    simp [Tree.wellFormed_array, Tree.wellFormed_object]
  exact (hmemory.trans (.insert _ (spellsString_escaped "tags".toList) (by decide) htags)).trans
    (.reorder (List.reverse_perm _).symm)

end SystemStats

theorem written_of_toList {text : String} (h : tree.WellFormed)
    (htext : text.toList = tree.compact) :
    Written (.spaced tree) text.toList :=
  htext ▸ h.written.unspaced

theorem exists_ok_and {ε α : Type} {x y : Except ε α} (hx : x.isOk = true)
    (h : ∀ a, x = .ok a → y = .ok a) : ∃ a, x = .ok a ∧ y = .ok a := by
  cases x with
  | error e => cases hx
  | ok a => exact ⟨a, rfl, h a rfl⟩

/-- Every text that is read has a tree, and whatever is written of this tree or of a rearranged one
is read as the same statistics. -/
theorem parse_rearranged :
    (∀ (text : String) (s : SystemStats), SystemStats.parse text = .ok s →
      (∃ tree, Written (.spaced tree) text.toList) ∧
        ∀ tree tree' (text' : String), Written (.spaced tree) text.toList →
          SystemStats.Rearranged tree tree' → Written (.spaced tree') text'.toList →
            SystemStats.parse text' = .ok s) ∧
    (∀ (text : String) (u : UsageStats), UsageStats.parse text = .ok u →
      (∃ tree, Written (.spaced tree) text.toList) ∧
        ∀ tree tree' (text' : String), Written (.spaced tree) text.toList →
          UsageStats.Rearranged tree tree' → Written (.spaced tree') text'.toList →
            UsageStats.parse text' = .ok u) :=
  ⟨fun _ _ => RecordReader.readText_rearranged SystemStats.reader_commutes SystemStats.reader_keeps
      SystemStats.reader_fieldsRead SystemStats.reader_finds,
    fun _ _ => RecordReader.readText_rearranged UsageStats.reader_commutes UsageStats.reader_keeps
      UsageStats.reader_fieldsRead UsageStats.reader_finds⟩

/-- Statistics as above; and a usage as an object, and as an array among blanks. -/
theorem parse_rearranged_of_writtenMembers :
    (∃ s, SystemStats.parse
        ("\x7b\"note\":\"\\ud800\",\"platform\":\"Linux\",\"cpu_percent\":25," ++
          "\"memory\":\x7b\"total\":\"8 GB\",\"used\":\"2 GB\",\"percent\":25\x7d," ++
          "\"disk\":[\"8 GB\",\"2 GB\",25]\x7d") = .ok s ∧
      SystemStats.parse
        ("\x7b\"disk\":[\"8 GB\",\"2 GB\",25],\"memory\":[\"8 GB\",\"2 GB\",25]," ++
          "\"cpu_percent\":25,\"platform\":\"Linux\",\"note\":\"\\ud800\",\"tags\":[\x7b\x7d]\x7d") =
        .ok s) ∧
    ∃ u, UsageStats.parse "\x7b\"total\":\"8 GB\",\"used\":\"2 GB\",\"percent\":25\x7d" = .ok u ∧
      UsageStats.parse "[ \"8 GB\",\n \"2 GB\", 25 ]" = .ok u := by
  refine ⟨exists_ok_and (by decide +kernel) fun s hs => ?_,
    exists_ok_and (by decide +kernel) fun u hu => ?_⟩
  · have hwell := SystemStats.writtenMembers_wellFormed
    have h := SystemStats.writtenMembers_rearranged
    have hwell' := h.wellFormed SystemStats.reader_keeps hwell
    exact (parse_rearranged.1 _ s hs).2 _ _ _ (written_of_toList hwell (by decide +kernel)) h
      (written_of_toList hwell' (by decide +kernel))
  · have hblanks (blanks : List Char) (h : blanks.all isBlank = true) : Blanks blanks :=
      List.all_eq_true.1 h
    have hwell := UsageStats.writtenMembers_wellFormed
    have hlast := Written.lastItem
      (.spaced (hblanks [' '] rfl) (.leaf isLeaf_count) (hblanks [' '] rfl))
    have hitems := Written.nextItem
      (.spaced (hblanks [' '] rfl) (.leaf (isLeaf_quoted (s := "8 GB") rfl)) .nil)
      (.nextItem (.spaced (hblanks ['\n', ' '] rfl) (.leaf (isLeaf_quoted (s := "2 GB") rfl)) .nil)
        hlast)
    exact (parse_rearranged.2 _ u hu).2 _ _ _ (written_of_toList hwell (by decide +kernel))
      (.toArray UsageStats.writtenMembers_inOrder) (Written.array hitems).unspaced

end HostStatus

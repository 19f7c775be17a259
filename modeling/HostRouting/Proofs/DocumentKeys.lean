import HostRouting.Proofs.AssembledKeys
import HostRouting.Toml.Document

/-!
# Documents have distinct keys

A text that is read as a document gives tables in which no key stands twice, at any depth.  What is
said of documents with distinct keys is therefore said of every document that can be read.
-/

namespace HostRouting.Toml

/-! ## Values -/

theorem Word.hasDistinctKeys_value {word : List Char} {value : Value}
    (hvalue : Word.value? word = some value) : value.hasDistinctKeys = true := by
  rw [Word.value?] at hvalue
  split at hvalue
  · cases hvalue
    rfl
  · split at hvalue
    · cases hvalue
      rfl
    · rcases Option.or_eq_some_iff.mp hvalue with hnumber | ⟨-, hdate⟩
      · rcases Option.or_eq_some_iff.mp hnumber with hinteger | ⟨-, hfloat⟩
        · obtain ⟨_, -, rfl⟩ := Option.map_eq_some_iff.mp hinteger
          rfl
        · obtain ⟨_, -, rfl⟩ := Option.map_eq_some_iff.mp hfloat
          rfl
      · obtain ⟨_, -, rfl⟩ := Option.map_eq_some_iff.mp hdate
        rfl

/-- Whether all that a reader gives is of some kind. -/
def Yields {α : Type} (reader : Reader α) (kind : α → Prop) : Prop :=
  ∀ text value rest, reader text = some (value, rest) → kind value

theorem yields_readWord : Yields readWord fun value => value.hasDistinctKeys = true := by
  intro text value rest hread
  have halone : ∀ word (after : List Char),
      ((Word.value? word).map fun value => (value, after)) = some (value, rest) →
        value.hasDistinctKeys = true := by
    intro word after hmap
    obtain ⟨content, hcontent, hpair⟩ := Option.map_eq_some_iff.mp hmap
    cases hpair
    exact Word.hasDistinctKeys_value hcontent
  simp only [readWord] at hread
  split at hread
  · split at hread
    · exact halone _ _ hread
    · exact halone _ _ hread
  · exact halone _ _ hread

variable {item : Reader Value}

theorem yields_readItems (hitem : Yields item fun value => value.hasDistinctKeys = true)
    (count : Nat) :
    Yields (readItems item count) fun values => Value.itemsHaveDistinctKeys values = true := by
  induction count with
  | zero =>
      intro text values rest hread
      cases hread
  | succ count ih =>
      intro text values rest hread
      rw [readItems] at hread
      split at hread
      · cases hread
        rfl
      · obtain ⟨⟨value, after⟩, hvalue, hmore⟩ := Option.bind_eq_some_iff.mp hread
        have hfirst := hitem _ _ _ hvalue
        simp only at hmore
        split at hmore
        · cases hmore
          simp [Value.itemsHaveDistinctKeys, hfirst]
        · obtain ⟨⟨others, last⟩, hothers, hresult⟩ := Option.bind_eq_some_iff.mp hmore
          have hrest := ih _ _ _ hothers
          cases hresult
          simp [Value.itemsHaveDistinctKeys, hfirst, hrest]
        · cases hmore

theorem yields_readEntry (hitem : Yields item fun value => value.hasDistinctKeys = true) :
    Yields (readEntry item) fun entry => entry.2.hasDistinctKeys = true := by
  intro text entry rest hread
  rw [readEntry] at hread
  obtain ⟨⟨key, after⟩, -, hmore⟩ := Option.bind_eq_some_iff.mp hread
  obtain ⟨start, -, hcontent⟩ := Option.bind_eq_some_iff.mp hmore
  obtain ⟨⟨value, last⟩, hvalue, hresult⟩ := Option.bind_eq_some_iff.mp hcontent
  have hgood := hitem _ _ _ hvalue
  cases hresult
  exact hgood

theorem yields_readEntries (hitem : Yields item fun value => value.hasDistinctKeys = true)
    (count : Nat) :
    Yields (readEntries item count) fun entries =>
      ∀ entry ∈ entries, entry.2.hasDistinctKeys = true := by
  induction count with
  | zero =>
      intro text entries rest hread
      cases hread
  | succ count ih =>
      intro text entries rest hread
      rw [readEntries] at hread
      obtain ⟨⟨entry, after⟩, hentry, hmore⟩ := Option.bind_eq_some_iff.mp hread
      have hfirst := yields_readEntry hitem _ _ _ hentry
      simp only at hmore
      split at hmore
      · cases hmore
        simpa using hfirst
      · obtain ⟨⟨others, last⟩, hothers, hresult⟩ := Option.bind_eq_some_iff.mp hmore
        have hrest := ih _ _ _ hothers
        cases hresult
        exact List.forall_mem_cons.mpr ⟨hfirst, hrest⟩
      · cases hmore

theorem yields_readInline (hitem : Yields item fun value => value.hasDistinctKeys = true)
    (limit : Nat) :
    Yields (readInline item limit) fun entries =>
      ∀ entry ∈ entries, entry.2.hasDistinctKeys = true := by
  intro text entries rest hread
  rw [readInline] at hread
  split at hread
  · cases hread
    simp
  · exact yields_readEntries hitem limit _ _ _ hread

theorem readValue_nil (limit depth : Nat) : readValue limit depth [] = none := by
  unfold readValue
  rfl

/-- A value is read with distinct keys, however deep its arrays and inline tables are nested. -/
theorem yields_readValue (limit depth : Nat) :
    Yields (readValue limit depth) fun value => value.hasDistinctKeys = true := by
  induction depth using Nat.strongRecOn with
  | ind depth ih =>
      intro text value rest hread
      cases text with
      | nil =>
          rw [readValue_nil] at hread
          cases hread
      | cons character text =>
          unfold readValue at hread
          split at hread
          · obtain ⟨_, -, hpair⟩ := Option.map_eq_some_iff.mp hread
            cases hpair
            rfl
          · split at hread
            · rename_i inner _
              obtain ⟨⟨items, after⟩, hitems, hpair⟩ := Option.map_eq_some_iff.mp hread
              cases hpair
              exact yields_readItems (ih inner (Nat.lt_succ_self inner)) limit _ _ _ hitems
            · rename_i inner _
              obtain ⟨⟨entries, after⟩, hentries, hmore⟩ := Option.bind_eq_some_iff.mp hread
              obtain ⟨table, htable, hpair⟩ := Option.bind_eq_some_iff.mp hmore
              cases hpair
              have hinline := yields_readInline (ih inner (Nat.lt_succ_self inner)) limit
              exact Table.hasDistinctKeys_ofEntries (hinline _ _ _ hentries) htable
            · exact yields_readWord _ _ _ hread

/-! ## Lines -/

theorem yields_readStatement (limit : Nat) :
    Yields (readStatement limit) fun statement => statement.hasDistinctKeys = true := by
  intro text statement rest hread
  unfold readStatement at hread
  split at hread
  · obtain ⟨⟨key, after⟩, -, hmore⟩ := Option.bind_eq_some_iff.mp hread
    obtain ⟨first, -, hlast⟩ := Option.bind_eq_some_iff.mp hmore
    obtain ⟨second, -, hresult⟩ := Option.bind_eq_some_iff.mp hlast
    cases hresult
    rfl
  · obtain ⟨⟨key, after⟩, -, hmore⟩ := Option.bind_eq_some_iff.mp hread
    obtain ⟨last, -, hresult⟩ := Option.bind_eq_some_iff.mp hmore
    cases hresult
    rfl
  · obtain ⟨⟨⟨key, value⟩, after⟩, hentry, hresult⟩ := Option.bind_eq_some_iff.mp hread
    have hvalue := yields_readEntry (yields_readValue limit maxNesting) _ _ _ hentry
    cases hresult
    exact hvalue

theorem hasDistinctKeys_of_readStatements {limit count : Nat} {text : List Char}
    {statements : List Statement} (hread : readStatements limit count text = some statements) :
    ∀ statement ∈ statements, statement.hasDistinctKeys = true := by
  induction count generalizing text statements with
  | zero =>
      rw [readStatements] at hread
      split at hread
      · cases hread
        simp
      · cases hread
  | succ count ih =>
      rw [readStatements] at hread
      split at hread
      · cases hread
        simp
      · obtain ⟨⟨statement, rest⟩, hfirst, hmore⟩ := Option.bind_eq_some_iff.mp hread
        obtain ⟨after, -, hlines⟩ := Option.bind_eq_some_iff.mp hmore
        obtain ⟨others, hothers, hresult⟩ := Option.bind_eq_some_iff.mp hlines
        have hstatement := yields_readStatement limit _ _ _ hfirst
        cases hresult
        exact List.forall_mem_cons.mpr ⟨hstatement, ih hothers⟩

/-! ## Tagged dates -/

theorem Table.keys_untagged {entries result : List (String × Value)}
    (huntagged : Table.untagged? entries = some result) :
    result.map Prod.fst = entries.map Prod.fst := by
  induction entries generalizing result with
  | nil =>
      cases huntagged
      rfl
  | cons entry rest ih =>
      obtain ⟨value, -, hmore⟩ := Option.bind_eq_some_iff.mp huntagged
      obtain ⟨others, hothers, hresult⟩ := Option.bind_eq_some_iff.mp hmore
      cases hresult
      rw [List.map_cons, List.map_cons, ih hothers]

mutual

/-- Reading the tables that stand for dates as dates keeps keys distinct. -/
theorem Value.hasDistinctKeys_untagged : (value result : Value) →
    value.untagged? = some result → value.hasDistinctKeys = true → result.hasDistinctKeys = true
  | .array items, _, huntagged, hkeys => by
      obtain ⟨others, hothers, rfl⟩ := Option.map_eq_some_iff.mp huntagged
      exact Value.hasDistinctKeys_untaggedItems items others hothers hkeys
  | .table entries, _, huntagged, hkeys => by
      rw [Value.untagged?] at huntagged
      split at huntagged
      · obtain ⟨moment, -, rfl⟩ := Option.map_eq_some_iff.mp huntagged
        rfl
      · obtain ⟨others, hothers, rfl⟩ := Option.map_eq_some_iff.mp huntagged
        exact Table.hasDistinctKeys_untagged entries others hothers hkeys
  | .string _, _, huntagged, _ => by cases huntagged; rfl
  | .integer _, _, huntagged, _ => by cases huntagged; rfl
  | .float _, _, huntagged, _ => by cases huntagged; rfl
  | .boolean _, _, huntagged, _ => by cases huntagged; rfl
  | .datetime _, _, huntagged, _ => by cases huntagged; rfl

theorem Value.hasDistinctKeys_untaggedItems : (items results : List Value) →
    Value.untaggedItems? items = some results → Value.itemsHaveDistinctKeys items = true →
      Value.itemsHaveDistinctKeys results = true
  | [], _, huntagged, _ => by
      cases huntagged
      rfl
  | item :: items, _, huntagged, hkeys => by
      obtain ⟨first, hfirst, hmore⟩ := Option.bind_eq_some_iff.mp huntagged
      obtain ⟨others, hothers, hresult⟩ := Option.bind_eq_some_iff.mp hmore
      cases hresult
      simp only [Value.itemsHaveDistinctKeys, Bool.and_eq_true] at hkeys ⊢
      exact ⟨Value.hasDistinctKeys_untagged item first hfirst hkeys.1,
        Value.hasDistinctKeys_untaggedItems items others hothers hkeys.2⟩

theorem Table.hasDistinctKeys_untagged : (entries results : List (String × Value)) →
    Table.untagged? entries = some results → Table.hasDistinctKeys entries = true →
      Table.hasDistinctKeys results = true
  | [], _, huntagged, _ => by
      cases huntagged
      rfl
  | (key, value) :: entries, _, huntagged, hkeys => by
      obtain ⟨first, hfirst, hmore⟩ := Option.bind_eq_some_iff.mp huntagged
      obtain ⟨others, hothers, hresult⟩ := Option.bind_eq_some_iff.mp hmore
      cases hresult
      simp only [Table.hasDistinctKeys, Bool.and_eq_true, decide_eq_true_eq] at hkeys ⊢
      rw [Table.keys_untagged hothers]
      exact ⟨⟨hkeys.1.1, Value.hasDistinctKeys_untagged value first hfirst hkeys.1.2⟩,
        Table.hasDistinctKeys_untagged entries others hothers hkeys.2⟩

end

/-- Every document that can be read has distinct keys. -/
theorem hasDistinctKeys_of_document {text : String} {table : Table}
    (hdocument : document? text = some table) : Table.hasDistinctKeys table = true := by
  obtain ⟨raw, hraw, huntagged⟩ := Option.bind_eq_some_iff.mp hdocument
  obtain ⟨statements, hstatements, htable⟩ := Option.bind_eq_some_iff.mp hraw
  exact Table.hasDistinctKeys_untagged raw table huntagged
    (Table.hasDistinctKeys_ofStatements (hasDistinctKeys_of_readStatements hstatements) htable)

end HostRouting.Toml

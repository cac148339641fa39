import ColumnVeil.Proofs.Shield.Zeroless
import ColumnVeil.Proofs.Relay.Refusal
import ColumnVeil.Proofs.Wire.Writing

/-!
# Where queries end

On the wire a query ends at the first zero of its text, so a query that holds a zero is cut short
by whoever reads it.  The client's own text holds none, or it would have ended there.  What is
written instead of it is printed of statements that the shields have changed, and holds a zero
only if these statements held one when they were read.
-/

namespace ColumnVeil

namespace Wire

/-- A frame holds a query text whole: the text is followed by the only zero of the body, so that
a reader of the frame, behind and before whatever else, comes to the end of the text and to the
end of the body at once. -/
structure Message.EndsWith (bytes text : Bytes) : Prop where
  zeroless : 0 ∉ text
  written : bytes = Message.frame (ascii 'Q') (text ++ [0])
  declared : text.length + 5 ≤ 2147483647 →
    (ofInt32Bytes ((bytes.drop 1).take 4)).toInt = text.length + 5
  complete : ∀ existing later,
    BodyKind.query.format.validate (existing ++ bytes ++ later)
        ⟨existing.length + 5, text.length + 1⟩ =
      (.complete, ⟨existing.length + 5 + (text.length + 1), 0⟩)
  decoded : Message.ofFrame .query (some (ascii 'Q')) bytes 5 = .ok (.query text)

/-- The body of such a frame has one zero. -/
theorem Message.EndsWith.count_zero {bytes text : Bytes} (ends : Message.EndsWith bytes text) :
    (bytes.drop 5).count 0 = 1 := by
  have body : bytes.drop 5 = text ++ [0] := by
    rw [ends.written, frame]
    refine List.drop_left' ?_
    rw [List.length_cons, bigEndian_length]
  rw [body, List.count_append, List.count_eq_zero_of_not_mem ends.zeroless]
  rfl

theorem Message.endsWith_write {text : Bytes} (zeroless : 0 ∉ text) :
    Message.EndsWith (Message.query text).write text := by
  let body := text ++ [0]
  let header := ascii 'Q' :: bigEndian 4 (body.length + 4)
  have readable : BodyKind.query.format.Readable text [] := zeroless
  have written : (Message.query text).write = header ++ body := rfl
  have width : header.length = 5 := by
    rw [List.length_cons, bigEndian_length]
  have length : body.length = text.length + 1 := List.length_append
  refine ⟨zeroless, rfl, ?_, ?_, ?_⟩
  · intro small
    have taken : ((Message.query text).write.drop 1).take 4 = bigEndian 4 (body.length + 4) := by
      rw [written, List.cons_append, List.drop_one, List.tail_cons]
      exact List.take_left' (bigEndian_length _ _)
    rw [taken, toInt_bigEndian_four (by omega), length]
    omega
  · intro existing later
    have found := Format.validate_write BodyKind.query.productive_format readable
      (existing ++ header) later
    have ending : BodyKind.query.format.write text = body := rfl
    rw [ending, List.length_append, width, length] at found
    rw [written, ← List.append_assoc]
    exact found
  · have read : Message.readBody BodyKind.query.format (ascii 'Q') body = .ok text :=
      Message.readBody_write readable _
    rw [Message.ofFrame, written, List.drop_left' width, read]
    rfl

end Wire

namespace Relay

open Wire

variable {catalog : Catalog} {policy : Policy ChainState}

/-- A query that is not passed on unread is kept, or printed anew behind the shields. -/
theorem Policy.of_gives_shieldText {text rewritten : String} {before after : ChainState}
    (run : Gives (policy.shieldText text) before (some rewritten) after) :
    rewritten = text ∨ ∃ statements changed, Sql.parse text = .ok statements ∧
      Gives (policy.shield.protect statements) before changed after ∧
        rewritten = Sql.printStatements changed := by
  unfold Policy.shieldText at run
  split at run
  · split at run
    · cases (gives_pure_iff.mp run).1
    · exact absurd run not_gives_throw
  · cases (gives_pure_iff.mp run).1
  · rename_i statements nonempty parsed
    obtain ⟨changed, reached, passed, kept⟩ := gives_bind_iff.mp run
    obtain ⟨stated, rfl⟩ := gives_pure_iff.mp kept
    cases stated
    split
    · exact .inl rfl
    · exact .inr ⟨statements, changed, parsed, passed, rfl⟩

namespace Exchange

variable {exchange : Exchange ChainState}

/-- What is sent for a query: the client's own text, or the print of what the shields make of its
statements. -/
def Sends (policy : Policy ChainState) (exchange : Exchange ChainState)
    (text sent : Bytes) : Prop :=
  sent = text ∨
    ∃ query statements changed chain,
      Text.decode? text = some query ∧ Sql.parse query = .ok statements ∧
        Gives (policy.shield.protect statements) exchange.chain changed chain ∧
          sent = Text.utf8 (Sql.printStatements changed)

/-- A query is refused, or one frame is written for it: that of a text that is sent for it. -/
theorem toServer_onQuery (policy : Policy ChainState) (exchange : Exchange ChainState)
    (text : Bytes) :
    (exchange.onQuery policy text).2.toServer = [] ∨
      ∃ sent, exchange.Sends policy text sent ∧
        (exchange.onQuery policy text).2.toServer = (Message.query sent).write := by
  have kept : ∃ sent, exchange.Sends policy text sent ∧
      (Message.query text).write = (Message.query sent).write := ⟨text, .inl rfl, rfl⟩
  unfold onQuery
  split
  · exact .inr kept
  · split
    · exact .inl rfl
    · rename_i query decoded
      split
      · exact .inl rfl
      · exact .inr kept
      · rename_i rewritten chain run
        split
        · exact .inr kept
        · rename_i other
          rcases Policy.of_gives_shieldText run with
            same | ⟨statements, changed, parsed, passed, rfl⟩
          · exact absurd same other
          · exact .inr ⟨_, .inr ⟨query, statements, changed, chain, decoded, parsed, passed, rfl⟩,
              rfl⟩

/-- Neither the client's text nor what is printed of its statements holds a zero, if the
statements hold none and no name in the catalog does. -/
theorem Sends.zeroless (shield : policy.shield = catalog.chain) (ofCatalog : Zeroless catalog)
    {text sent : Bytes} (sends : exchange.Sends policy text sent) (whole : 0 ∉ text)
    (ofStatements : ∀ query statements, Text.decode? text = some query →
      Sql.parse query = .ok statements → Zeroless statements) : 0 ∉ sent := by
  rcases sends with rfl | ⟨query, statements, changed, chain, decoded, parsed, passed, rfl⟩
  · exact whole
  · rw [shield] at passed
    rw [Text.zero_mem_utf8, not_not, Sql.zeroless_printStatements]
    exact catalog.zeroless_of_chain ofCatalog (ofStatements query statements decoded parsed) passed

/--
Queries end where their texts do.  The catalog is made of definitions without a zero in their
names, and the client's text holds none.  If no statement that is read from it holds a zero, the
query is refused or one frame is written for it, and this frame holds the whole text that is sent,
the client's own or what is printed of the changed statements, and nothing else.
-/
theorem queries_end_with_their_texts (tables : List TableDefinition) (joinKeySize : Nat)
    (catalog : Catalog) (accepted : Catalog.ofDefinitions tables joinKeySize = .ok catalog)
    (named : Zeroless tables) (policy : Policy ChainState) (shield : policy.shield = catalog.chain)
    (exchange : Exchange ChainState) (text : Bytes) (whole : 0 ∉ text)
    (ofStatements : ∀ query statements, Text.decode? text = some query →
      Sql.parse query = .ok statements → Zeroless statements) :
    (exchange.onQuery policy text).2.toServer = [] ∨
      ∃ sent, exchange.Sends policy text sent ∧
        Message.EndsWith (exchange.onQuery policy text).2.toServer sent := by
  rcases toServer_onQuery policy exchange text with refused | ⟨sent, sends, written⟩
  · exact .inl refused
  · have ofCatalog := Catalog.zeroless_ofDefinitions named accepted
    have zeroless := sends.zeroless shield ofCatalog whole ofStatements
    rw [written]
    exact .inr ⟨sent, sends, Message.endsWith_write zeroless⟩

/-- The cities, whose names are found through an index. -/
def namedCities : List TableDefinition :=
  [{ name := "cities"
     columns := [{ name := "name", blindIndexKey := some (List.replicate 32 0x22) }] }]

/-- The catalog of the cities. -/
def namedCatalog : Catalog :=
  Catalog.insert {} "cities" ((ColumnRule.plain "name" .text).indexed (List.replicate 32 0x22))

theorem ofDefinitions_namedCities : Catalog.ofDefinitions namedCities 8 = .ok namedCatalog := by
  rfl

theorem zeroless_namedCities : Zeroless namedCities := by
  simp +decide [namedCities, Zeroless]

/-- A query that is grouped by names is grouped by their digests, and ends with its text. -/
theorem groupedNames_end_with_their_text :
    let policy : Policy ChainState := { shield := namedCatalog.chain, session := "1" }
    let exchange : Exchange ChainState := { chain := .initial { stream := fun _ => 0 } }
    let text := Text.utf8 "SELECT id FROM cities GROUP BY name"
    Catalog.ofDefinitions namedCities 8 = .ok namedCatalog ∧ Zeroless namedCities ∧ 0 ∉ text ∧
      (∀ query statements, Text.decode? text = some query →
        Sql.parse query = .ok statements → Zeroless statements) ∧
      ∃ sent, exchange.Sends policy text sent ∧
        Message.EndsWith (exchange.onQuery policy text).2.toServer sent := by
  intro policy exchange text
  have whole : 0 ∉ text := by decide +kernel
  have ofStatements : ∀ query statements, Text.decode? text = some query →
      Sql.parse query = .ok statements → Zeroless statements := by
    intro query statements decoded parsed
    have printed : ((Text.decode? text).bind fun query =>
        (Sql.parse query).toOption.map Sql.printStatements) =
        some "SELECT id FROM cities GROUP BY name" := by
      decide +kernel
    rw [decoded, Option.bind_some, parsed] at printed
    rw [← Sql.zeroless_printStatements, Option.some.inj printed]
    simp +decide
  have written : (exchange.onQuery policy text).2.toServer ≠ [] := by decide +kernel
  refine ⟨ofDefinitions_namedCities, zeroless_namedCities, whole, ofStatements, ?_⟩
  exact (queries_end_with_their_texts namedCities 8 namedCatalog ofDefinitions_namedCities
    zeroless_namedCities policy rfl exchange text whole ofStatements).resolve_left written

/-- A zero that is written as four digits reaches the server as a zero, in the middle of the
body. -/
theorem zeroByItsCode_ends_early :
    let policy : Policy ChainState := { shield := namedCatalog.chain, session := "1" }
    let exchange : Exchange ChainState := { chain := .initial { stream := fun _ => 0 } }
    let text := Text.utf8 "SELECT U&'\\0000' FROM cities GROUP BY name"
    let written := (exchange.onQuery policy text).2.toServer
    Catalog.ofDefinitions namedCities 8 = .ok namedCatalog ∧ Zeroless namedCities ∧ 0 ∉ text ∧
      written ≠ [] ∧ ∀ sent, ¬ Message.EndsWith written sent := by
  intro policy exchange text written
  have zeros : (written.drop 5).count 0 = 2 := by decide +kernel
  refine ⟨ofDefinitions_namedCities, zeroless_namedCities, by decide +kernel, ?_, ?_⟩
  · intro nothing
    rw [nothing] at zeros
    cases zeros
  · intro sent ends
    rw [ends.count_zero] at zeros
    cases zeros

end Exchange

end Relay

end ColumnVeil

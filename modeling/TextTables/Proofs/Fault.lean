import TextTables.Fault
import TextTables.Proofs.Text.Foreign

/-!
# What messages repeat

Some causes name a word that was found: a token, a name, a column.  Their messages repeat
that word as it is, between texts that are fixed, so a message is on one line as long as
the word is.
-/

namespace TextTables.Fault

open Text (FreeOf freeOf_append freeOf_ofList)

/-- The words that the message for a cause repeats. -/
def words : Fault → List String
  | strangeFragment found | keywordExpected found | unexpectedToken found
  | invalidName found | unexpectedValue found | afterSemicolon found | columnTwice found
  | columnExpected found | valueExpected found | conditionContinues found
  | columnExists found | columnMissing found | headingTwice found | databaseMissing found
  | databaseExists found | databaseNotEmptied found | tableMissing found
  | tableExists found | tableNotCreated found | tableNotDeleted found
  | invalidPort found => [found]
  | _ => []

/-- A cause for which a statement can be refused and that repeats no word with the
character. -/
structure Avoids (c : Char) (fault : Fault) : Prop where
  kind : fault.kind ≠ .settings
  words : ∀ word ∈ fault.words, FreeOf c word

variable {c : Char} {fault : Fault}

theorem avoids_of_words_eq_nil (hkind : fault.kind ≠ .settings) (h : fault.words = []) :
    fault.Avoids c := by
  refine ⟨hkind, fun word hword => ?_⟩
  rw [h] at hword
  cases hword

theorem avoids_of_words_eq_singleton {word : String} (hkind : fault.kind ≠ .settings)
    (h : fault.words = [word]) (hword : FreeOf c word) : fault.Avoids c := by
  refine ⟨hkind, fun other hother => ?_⟩
  rw [h] at hother
  rwa [List.mem_singleton.mp hother]

/-- A word between two texts. -/
theorem freeOf_around {before word after : String} (hbefore : FreeOf c before)
    (hafter : FreeOf c after) (hword : FreeOf c word) : FreeOf c (before ++ word ++ after) :=
  freeOf_append.mpr ⟨freeOf_append.mpr ⟨hbefore, hword⟩, hafter⟩

theorem Avoids.message (h : fault.Avoids '\n') : FreeOf '\n' fault.message := by
  have hdigits : ∀ n : Nat, FreeOf '\n' (Nat.repr n) := fun n =>
    Text.foreign_lineFeed.freeOf_toText (Int.ofNat n)
  have hlabel : ∀ category : Category, FreeOf '\n' category.label := by
    intro category
    cases category <;> exact freeOf_ofList (by decide)
  cases fault with
  | strangeFragment word | unexpectedToken word | invalidName word | unexpectedValue word
  | afterSemicolon word | columnTwice word | columnExpected word | valueExpected word
  | conditionContinues word | headingTwice word =>
      have hword := h.words word (List.mem_singleton_self word)
      exact freeOf_append.mpr ⟨freeOf_ofList (by decide), hword⟩
  | keywordExpected word | columnExists word | columnMissing word | databaseMissing word
  | databaseExists word | databaseNotEmptied word | tableMissing word | tableExists word
  | tableNotCreated word | tableNotDeleted word =>
      have hword := h.words word (List.mem_singleton_self word)
      exact freeOf_around (freeOf_ofList (by decide)) (freeOf_ofList (by decide)) hword
  | commandTooLong limit =>
      exact freeOf_around (freeOf_ofList (by decide)) (freeOf_ofList (by decide)) (hdigits limit)
  | categoryExpected wanted found =>
      refine freeOf_append.mpr ⟨?_, hlabel found⟩
      exact freeOf_around (freeOf_ofList (by decide)) (freeOf_ofList (by decide)) (hlabel wanted)
  | valueCount expected given =>
      refine freeOf_around ?_ (freeOf_ofList (by decide)) (hdigits given)
      exact freeOf_around (freeOf_ofList (by decide)) (freeOf_ofList (by decide))
        (hdigits expected)
  | system refusal =>
      refine freeOf_append.mpr ⟨freeOf_ofList (by decide), ?_⟩
      cases refusal <;> exact freeOf_ofList (by decide)
  | unreadableSettings | settingsKeyTooLong | invalidPort _ | emptyStorageDirectory | zeroPort
  | zeroStatementLength => exact absurd rfl h.kind
  | unterminatedLiteral | tabInLiteral | emptyCommand | unknownCommand | createWhat | alterHow
  | dropWhat | endOfCommand | missingSemicolon | unclosedParenthesis | unopenedParenthesis
  | incompleteCondition | keyAssigned | keyAltered | assignedColumnMissing
  | joinColumnMissing | unusableId | noDatabaseSelected | databaseNotCreated
  | tableNotWritten | joinTableEmpty => exact freeOf_ofList (by decide)

end TextTables.Fault

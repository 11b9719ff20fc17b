import BlockData.Tool.FileSystem

/-!
# Storing texts

Storing a text in a file changes what this file holds and nothing else: other files keep their
bytes, and every path leads where it led. This is what it means that one file is rewritten
(`FileSystem.IsRewriting`).
-/

namespace BlockData.Tool

/-- The bytes of a text are read as the text. -/
theorem Source.ofBytes_toUTF8 (content : String) :
    Source.ofBytes content.toUTF8 = .text content := by
  have decoded : String.fromUTF8? content.toUTF8 = some content := dif_pos content.isValidUTF8
  rw [Source.ofBytes, decoded]

/-- Bytes that are read as a text are the bytes of this text. -/
theorem Source.eq_toUTF8_of_ofBytes {content : ByteArray} {text : String}
    (read : Source.ofBytes content = .text text) : content = text.toUTF8 := by
  rw [Source.ofBytes, String.fromUTF8?] at read
  split at read
  next decoded isDecoded =>
    cases read
    split at isDecoded
    next valid =>
      cases isDecoded
      rfl
    next => cases isDecoded
  next => cases read

namespace FileSystem

variable {File : Type}

/-- One file is rewritten: it held one text and holds another one, all other files keep their
bytes, and all paths lead where they led. -/
structure IsRewriting (before after : FileSystem File) (file : File) (old new : String) :
    Prop where
  held : before.content file = old.toUTF8
  holds : after.content file = new.toUTF8
  others : ∀ other, other ≠ file → after.content other = before.content other
  locate : after.locate = before.locate
  refusal : after.refusal = before.refusal

/-- A path with a text leads to a file that holds it. -/
theorem exists_file_of_read {system : FileSystem File} {path text : String}
    (read : system.read path = .text text) :
    ∃ file, system.locate path = .file file ∧ system.content file = text.toUTF8 := by
  unfold FileSystem.read at read
  cases leads : system.locate path with
  | nothing => simp [leads] at read
  | unreadable reason => simp [leads] at read
  | file file =>
      simp only [leads] at read
      exact ⟨file, rfl, Source.eq_toUTF8_of_ofBytes read⟩

/-- A path to a file with a text is read as the text. -/
theorem read_of_locate {system : FileSystem File} {path text : String} {file : File}
    (leads : system.locate path = .file file) (holds : system.content file = text.toUTF8) :
    system.read path = .text text := by
  simp only [FileSystem.read, leads, holds, Source.ofBytes_toUTF8]

variable [DecidableEq File] (system : FileSystem File) (file : File) (text : String)

@[simp] theorem content_store_self : (system.store file text).content file = text.toUTF8 :=
  if_pos rfl

theorem content_store_of_ne {file other : File} (ne : other ≠ file) :
    (system.store file text).content other = system.content other :=
  if_neg ne

@[simp] theorem locate_store : (system.store file text).locate = system.locate := rfl

@[simp] theorem refusal_store : (system.store file text).refusal = system.refusal := rfl

/-- Storing a text twice is storing it once. -/
@[simp] theorem store_store :
    (system.store file text).store file text = system.store file text := by
  have content : ((system.store file text).store file text).content =
      (system.store file text).content := by
    funext other
    by_cases same : other = file
    · rw [same, content_store_self, content_store_self]
    · rw [content_store_of_ne _ _ same]
  exact congrArg (FileSystem.mk system.locate · system.refusal) content

variable {system file}

/-- Storing a text in a file that holds one rewrites this file. -/
theorem isRewriting_store {old : String} (held : system.content file = old.toUTF8) :
    system.IsRewriting (system.store file text) file old text where
  held := held
  holds := content_store_self system file text
  others _ := content_store_of_ne system text
  locate := locate_store system file text
  refusal := refusal_store system file text

end FileSystem

end BlockData.Tool

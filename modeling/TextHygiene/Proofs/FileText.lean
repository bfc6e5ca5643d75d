import TextHygiene.Proofs.Encoding
import TextHygiene.Proofs.Inspection
import TextHygiene.Run

/-!
# Files and their texts

A file holds a text exactly if its bytes are well-formed and none of them is zero.  It is then
inspected as that text.  Any other file, and any file whose bytes cannot be had, has one finding
about itself and none about its lines.
-/

namespace TextHygiene

open Inspection

variable {settings : Settings} {bytes : List UInt8} {contents : Text}

/-! ## Texts -/

/-- Bytes with a zero among them are no text, well formed or not. -/
theorem textOfBytes_eq_binary (h : 0 ∈ bytes) : textOfBytes bytes = .error .binary := by
  rw [textOfBytes, if_pos (List.contains_iff_mem.2 h)]

/-- Bytes that are not well formed are no text. -/
theorem textOfBytes_eq_notText (hzero : 0 ∉ bytes) (h : ¬ Utf8.WellFormed bytes) :
    textOfBytes bytes = .error .notText := by
  have hnot : ¬ bytes.contains 0 = true := fun hin => hzero (List.contains_iff_mem.1 hin)
  rw [textOfBytes, if_neg hnot, Utf8.decode?_eq_none_iff.2 h]

/-- The bytes of a text without zeros are read as that text. -/
theorem textOfBytes_encode (h : '\x00' ∉ contents) :
    textOfBytes (Utf8.encode contents) = .ok contents := by
  have hnot : ¬ (Utf8.encode contents).contains 0 = true := fun hin =>
    h (Utf8.zero_mem_encode_iff.1 (List.contains_iff_mem.1 hin))
  rw [textOfBytes, if_neg hnot, Utf8.decode?_encode]

/-- A file holds a text exactly if its bytes are well-formed and none of them is zero. -/
theorem holdsText_iff :
    (0 ∉ bytes ∧ Utf8.WellFormed bytes) ↔
      ∃ contents : Text, '\x00' ∉ contents ∧ bytes = contents.flatMap String.utf8EncodeChar := by
  rw [Utf8.wellFormed_iff]
  constructor
  · rintro ⟨hzero, contents, rfl⟩
    exact ⟨contents, Utf8.zero_mem_encode_iff.not.1 hzero, Utf8.encode_eq contents⟩
  · rintro ⟨contents, hzero, rfl⟩
    rw [← Utf8.encode_eq]
    exact ⟨Utf8.zero_mem_encode_iff.not.2 hzero, contents, rfl⟩

/-! ## Findings -/

/-- No line rule speaks of files that cannot be read. -/
theorem Inspection.rule_ne_unreadableFile {issue : Issue} (h : issue ∈ inspect settings contents) :
    issue.rule ≠ .unreadableFile := by
  intro hrule
  rcases (mem_ofLines_iff.1 h).2 with ⟨_, ctx, _, hcheck⟩ | ⟨hunclosed, _⟩
  · rw [hrule] at hcheck
    cases hcheck
  · rw [hrule] at hunclosed
    cases hunclosed

/-- The findings of a file without a text: one on its first line, if the rule is enabled. -/
def unreadableFindings (settings : Settings) (path : Path) (reason : Unreadable) : List Finding :=
  if settings.enables .unreadableFile then [⟨path, 1, .unreadableFile, reason.message⟩] else []

namespace Workspace

variable {ws : Workspace} {path : Path}

theorem text_of_bytes (h : ws.bytes path = .ok bytes) : ws.text path = textOfBytes bytes := by
  rw [text, h]
  rfl

/-- A file without a text has one finding at most. -/
theorem inspectFile_of_text_error {reason : Unreadable} (h : ws.text path = .error reason) :
    ws.inspectFile settings path = unreadableFindings settings path reason := by
  rw [inspectFile, h]
  rfl

theorem inspectFile_of_bytes_error {fault : AccessFault} (h : ws.bytes path = .error fault) :
    ws.inspectFile settings path = unreadableFindings settings path (.access fault) := by
  apply inspectFile_of_text_error
  rw [text, h]
  rfl

/-- The findings of a file with a text are the issues of the text. -/
theorem inspectFile_of_encode (hzero : '\x00' ∉ contents)
    (h : ws.bytes path = .ok (Utf8.encode contents)) :
    ws.inspectFile settings path = (inspect settings contents).map (Finding.ofIssue path) := by
  rw [inspectFile, text_of_bytes h, textOfBytes_encode hzero]
  rfl

end Workspace

/-- A file that holds a text without zero characters has the findings of that text, none of which is
about the file as a whole.  Every other file has one finding, on its first line, if the rule about
unreadable files is enabled: its bytes cannot be had, or one of them is zero, or they are not
well-formed.  The bytes of texts are exactly the well-formed ones without a zero. -/
theorem inspectFile_exact (ws : Workspace) (settings : Settings) (path : Path) :
    (∀ contents : Text, '\x00' ∉ contents →
      ws.bytes path = .ok (contents.flatMap String.utf8EncodeChar) →
        ws.inspectFile settings path = (inspect settings contents).map (Finding.ofIssue path) ∧
          ∀ finding ∈ ws.inspectFile settings path, finding.rule ≠ .unreadableFile) ∧
      (∀ bytes, ws.bytes path = .ok bytes → 0 ∈ bytes →
        ws.inspectFile settings path = unreadableFindings settings path .binary) ∧
      (∀ bytes, ws.bytes path = .ok bytes → 0 ∉ bytes → ¬ Utf8.WellFormed bytes →
        ws.inspectFile settings path = unreadableFindings settings path .notText) ∧
      (∀ fault, ws.bytes path = .error fault →
        ws.inspectFile settings path = unreadableFindings settings path (.access fault)) ∧
      ∀ bytes : List UInt8, (0 ∉ bytes ∧ Utf8.WellFormed bytes) ↔
        ∃ contents : Text, '\x00' ∉ contents ∧
          bytes = contents.flatMap String.utf8EncodeChar := by
  refine ⟨fun contents hzero hbytes => ?_, fun bytes hbytes hzero => ?_,
    fun bytes hbytes hzero hnot => ?_, fun fault => Workspace.inspectFile_of_bytes_error,
    fun bytes => holdsText_iff⟩
  · rw [← Utf8.encode_eq] at hbytes
    have hfindings : ws.inspectFile settings path =
        (inspect settings contents).map (Finding.ofIssue path) :=
      Workspace.inspectFile_of_encode hzero hbytes
    refine ⟨hfindings, ?_⟩
    rw [hfindings, List.forall_mem_map]
    exact fun issue => rule_ne_unreadableFile
  · -- a zero byte is looked for before anything is decoded
    exact Workspace.inspectFile_of_text_error
      ((Workspace.text_of_bytes hbytes).trans (textOfBytes_eq_binary hzero))
  · exact Workspace.inspectFile_of_text_error
      ((Workspace.text_of_bytes hbytes).trans (textOfBytes_eq_notText hzero hnot))

/-- A text with characters of all lengths behind a byte order mark. -/
def fourLengths : Text :=
  "\ufeffx = é€😀 \n".toList

/-- A file with a text, one with a surrogate, one with an overlong character and a zero byte, and
one that may not be read. -/
def fourFiles : Workspace where
  root := .directory true true [
    ("text".toList, .file true (Utf8.encode fourLengths)),
    ("surrogate".toList, .file true [0x78, 0xED, 0xA0, 0x80]),
    ("zero".toList, .file true [0xC0, 0x80, 0x00]),
    ("closed".toList, .file false (Utf8.encode fourLengths))]
  home := []

/-- Every way in which a file can have a text or none, in one directory. -/
theorem inspectFile_exact_fourFiles :
    '\x00' ∉ fourLengths ∧
      fourFiles.bytes "text".toList = .ok (fourLengths.flatMap String.utf8EncodeChar) ∧
      fourFiles.bytes "surrogate".toList = .ok [0x78, 0xED, 0xA0, 0x80] ∧
      ¬ Utf8.WellFormed [0x78, 0xED, 0xA0, 0x80] ∧
      fourFiles.bytes "zero".toList = .ok [0xC0, 0x80, 0x00] ∧
      fourFiles.bytes "closed".toList = .error .denied ∧
      (inspect {} fourLengths).map (·.rule) = [.trailingWhitespace] ∧
      fourFiles.inspectFile {} "text".toList =
        (inspect {} fourLengths).map (Finding.ofIssue "text".toList) ∧
      fourFiles.inspectFile {} "surrogate".toList =
        [⟨"surrogate".toList, 1, .unreadableFile, Unreadable.notText.message⟩] ∧
      fourFiles.inspectFile {} "zero".toList =
        [⟨"zero".toList, 1, .unreadableFile, Unreadable.binary.message⟩] ∧
      fourFiles.inspectFile {} "closed".toList =
        [⟨"closed".toList, 1, .unreadableFile, (Unreadable.access .denied).message⟩] := by
  have hzero : '\x00' ∉ fourLengths := by
    decide +kernel
  have htext : fourFiles.bytes "text".toList =
      .ok (fourLengths.flatMap String.utf8EncodeChar) := by
    decide +kernel
  have hsurrogate : fourFiles.bytes "surrogate".toList = .ok [0x78, 0xED, 0xA0, 0x80] := by
    decide +kernel
  have hnot : ¬ Utf8.WellFormed [0x78, 0xED, 0xA0, 0x80] :=
    Utf8.decode?_eq_none_iff.1 (by decide +kernel)
  have hbinary : fourFiles.bytes "zero".toList = .ok [0xC0, 0x80, 0x00] := by
    decide +kernel
  have hclosed : fourFiles.bytes "closed".toList = .error .denied := by
    decide +kernel
  -- each file is a case of its own of the theorem
  refine ⟨hzero, htext, hsurrogate, hnot, hbinary, hclosed, by decide +kernel, ?_, ?_, ?_, ?_⟩
  · exact ((inspectFile_exact fourFiles {} _).1 _ hzero htext).1
  · exact (inspectFile_exact fourFiles {} _).2.2.1 _ hsurrogate (by decide) hnot
  · exact (inspectFile_exact fourFiles {} _).2.1 _ hbinary (by decide)
  · exact (inspectFile_exact fourFiles {} _).2.2.2.1 _ hclosed

end TextHygiene

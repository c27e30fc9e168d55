import AsmFormat.Text.Uppercase

/-!
# The vocabulary of the assembly language

The TMS9900 has sixty-nine machine instructions, and its assemblers accept two pseudo-instructions
and a list of directives beside them. A token that starts with a dot is a directive whether it
is listed or not.

`classify` says which part of the vocabulary a token belongs to. It ignores case: a token is
looked up by its upper case, and the tables hold upper case names only. The line reader and the
layout share it, so the two cannot disagree about a token.
-/

set_option autoImplicit false

namespace AsmFormat

/-- The machine instructions, and after them the pseudo-instructions `NOP` and `RT`. -/
def instructionNames : List String := [
  "A", "AB", "ABS", "AI", "ANDI", "B", "BL", "BLWP", "C", "CB", "CI", "CKOF", "CKON", "CLR",
  "COC", "CZC", "DEC", "DECT", "DIV", "IDLE", "INC", "INCT", "INV", "JEQ", "JGT", "JH", "JHE",
  "JL", "JLE", "JLT", "JMP", "JNC", "JNE", "JNO", "JOC", "JOP", "LDCR", "LI", "LIMI", "LREX",
  "LWPI", "MOV", "MOVB", "MPY", "NEG", "ORI", "RSET", "RTWP", "S", "SB", "SBO", "SBZ", "SETO",
  "SLA", "SOC", "SOCB", "SRA", "SRC", "SRL", "STCR", "STST", "STWP", "SWPB", "SZC", "SZCB",
  "TB", "X", "XOP", "XOR", "NOP", "RT"]

/-- The assembler directives. -/
def directiveNames : List String := [
  "AORG", "BES", "BSS", "BYTE", "CEND", "COPY", "CSEG", "DATA", "DEF", "DEND", "DORG", "DSEG",
  "DXOP", "END", "EQU", "EVEN", "IDT", "LIST", "LOAD", "PAGE", "PEND", "PSEG", "REF", "RORG",
  "SREF", "TEXT", "TITL", "UNL"]

/-- The part of the vocabulary that a token belongs to. -/
inductive TokenClass where
  /-- A machine instruction or a pseudo-instruction. -/
  | instruction
  /-- A listed directive. -/
  | directive
  /-- A token that starts with a dot. -/
  | dotDirective
  /-- Anything else: a label, or a mnemonic that is not listed. -/
  | unknown
deriving DecidableEq, Repr

namespace TokenClass

/-- Listed directives and dotted tokens are directives. -/
def isDirective : TokenClass → Bool
  | directive => true
  | dotDirective => true
  | instruction => false
  | unknown => false

/-- Whether the class may stand in the instruction field, so that it is not a label. -/
def isKnown : TokenClass → Bool
  | unknown => false
  | _ => true

theorem isKnown_eq_false_iff {c : TokenClass} : c.isKnown = false ↔ c = .unknown := by
  cases c <;> decide

end TokenClass

/-- The class of a token, whatever its case. -/
def classify (token : Text) : TokenClass :=
  if token.head? = some '.' then .dotDirective
  else
    let name := String.ofList token.upper
    if instructionNames.contains name then .instruction
    else if directiveNames.contains name then .directive
    else .unknown

/-- No name is both an instruction and a directive. -/
theorem instructionNames_disjoint_directiveNames :
    ∀ name ∈ instructionNames, name ∉ directiveNames := by
  decide

/-- The empty token belongs to no part of the vocabulary. -/
theorem classify_nil : classify [] = .unknown := by
  decide

end AsmFormat

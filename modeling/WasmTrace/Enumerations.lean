/-!
# Enumerations

A binary refers to the kinds of its items, to its sections and to what a linker reads in it, the
kinds of relocations, of symbols and of the members of a COMDAT group, by small codes.  Each
enumeration lists its members in the order of their codes, and a code is looked up in this list.
-/

namespace WasmTrace

/-! ## Items and sections -/

/-- The kind of an imported or exported item. -/
inductive ItemKind where
  | func
  | table
  | memory
  | global
  | event
  deriving DecidableEq, Repr

namespace ItemKind

/-- All kinds, in the order of their codes. -/
def all : List ItemKind := [.func, .table, .memory, .global, .event]

/-- The code of a kind in a binary. -/
def code : ItemKind → UInt8
  | .func => 0
  | .table => 1
  | .memory => 2
  | .global => 3
  | .event => 4

/-- The kind with a code. -/
def ofCode? (c : UInt8) : Option ItemKind := all.find? (·.code == c)

/-- The name of a kind. -/
def name : ItemKind → String
  | .func => "func"
  | .table => "table"
  | .memory => "memory"
  | .global => "global"
  | .event => "event"

end ItemKind

/-- The known sections of a binary. -/
inductive SectionId where
  | custom
  | types
  | imports
  | functions
  | tables
  | memories
  | globals
  | exports
  | start
  | elements
  | code
  | data
  | dataCount
  | events
  deriving DecidableEq, Repr

namespace SectionId

/-- All sections, in the order of their codes. -/
def all : List SectionId :=
  [.custom, .types, .imports, .functions, .tables, .memories, .globals, .exports, .start,
    .elements, .code, .data, .dataCount, .events]

/-- The number of a section in a binary. -/
def number : SectionId → UInt8
  | .custom => 0
  | .types => 1
  | .imports => 2
  | .functions => 3
  | .tables => 4
  | .memories => 5
  | .globals => 6
  | .exports => 7
  | .start => 8
  | .elements => 9
  | .code => 10
  | .data => 11
  | .dataCount => 12
  | .events => 13

/-- The section with a number. -/
def ofNumber? (n : UInt8) : Option SectionId := all.find? (·.number == n)

/-- The name of a section. -/
def name : SectionId → String
  | .custom => "Custom"
  | .types => "Type"
  | .imports => "Import"
  | .functions => "Function"
  | .tables => "Table"
  | .memories => "Memory"
  | .globals => "Global"
  | .exports => "Export"
  | .start => "Start"
  | .elements => "Elem"
  | .code => "Code"
  | .data => "Data"
  | .dataCount => "DataCount"
  | .events => "Event"

end SectionId

/-! ## Relocations, symbols and groups -/

/-- The kind of a relocation. -/
inductive RelocKind where
  | funcIndexLeb
  | tableIndexSleb
  | tableIndexI32
  | memoryAddressLeb
  | memoryAddressSleb
  | memoryAddressI32
  | typeIndexLeb
  | globalIndexLeb
  | functionOffsetI32
  | sectionOffsetI32
  | eventIndexLeb
  | memoryAddressRelSleb
  | tableIndexRelSleb
  deriving DecidableEq, Repr

namespace RelocKind

/-- All kinds, in the order of their codes. -/
def all : List RelocKind :=
  [.funcIndexLeb, .tableIndexSleb, .tableIndexI32, .memoryAddressLeb, .memoryAddressSleb,
    .memoryAddressI32, .typeIndexLeb, .globalIndexLeb, .functionOffsetI32, .sectionOffsetI32,
    .eventIndexLeb, .memoryAddressRelSleb, .tableIndexRelSleb]

/-- The code of a kind in a binary. -/
def code : RelocKind → UInt8
  | .funcIndexLeb => 0
  | .tableIndexSleb => 1
  | .tableIndexI32 => 2
  | .memoryAddressLeb => 3
  | .memoryAddressSleb => 4
  | .memoryAddressI32 => 5
  | .typeIndexLeb => 6
  | .globalIndexLeb => 7
  | .functionOffsetI32 => 8
  | .sectionOffsetI32 => 9
  | .eventIndexLeb => 10
  | .memoryAddressRelSleb => 11
  | .tableIndexRelSleb => 12

/-- The kind with a code. -/
def ofCode? (c : UInt8) : Option RelocKind := all.find? (·.code == c)

/-- The name of a kind. -/
def name : RelocKind → String
  | .funcIndexLeb => "R_WASM_FUNCTION_INDEX_LEB"
  | .tableIndexSleb => "R_WASM_TABLE_INDEX_SLEB"
  | .tableIndexI32 => "R_WASM_TABLE_INDEX_I32"
  | .memoryAddressLeb => "R_WASM_MEMORY_ADDR_LEB"
  | .memoryAddressSleb => "R_WASM_MEMORY_ADDR_SLEB"
  | .memoryAddressI32 => "R_WASM_MEMORY_ADDR_I32"
  | .typeIndexLeb => "R_WASM_TYPE_INDEX_LEB"
  | .globalIndexLeb => "R_WASM_GLOBAL_INDEX_LEB"
  | .functionOffsetI32 => "R_WASM_FUNCTION_OFFSET_I32"
  | .sectionOffsetI32 => "R_WASM_SECTION_OFFSET_I32"
  | .eventIndexLeb => "R_WASM_EVENT_INDEX_LEB"
  | .memoryAddressRelSleb => "R_WASM_MEMORY_ADDR_REL_SLEB"
  | .tableIndexRelSleb => "R_WASM_TABLE_INDEX_REL_SLEB"

end RelocKind

/-- The kind of a symbol. -/
inductive SymbolKind where
  | function
  | data
  | global
  | customSection
  | event
  deriving DecidableEq, Repr

namespace SymbolKind

/-- All kinds, in the order of their codes. -/
def all : List SymbolKind := [.function, .data, .global, .customSection, .event]

/-- The code of a kind in a binary. -/
def code : SymbolKind → UInt8
  | .function => 0
  | .data => 1
  | .global => 2
  | .customSection => 3
  | .event => 4

/-- The kind with a code. -/
def ofCode? (c : UInt8) : Option SymbolKind := all.find? (·.code == c)

/-- The name of a kind. -/
def name : SymbolKind → String
  | .function => "func"
  | .data => "data"
  | .global => "global"
  | .customSection => "section"
  | .event => "event"

end SymbolKind

/-- The kind of a member of a COMDAT group. -/
inductive ComdatKind where
  | data
  | function
  deriving DecidableEq, Repr

namespace ComdatKind

/-- All kinds, in the order of their codes. -/
def all : List ComdatKind := [.data, .function]

/-- The code of a kind in a binary. -/
def code : ComdatKind → UInt8
  | .data => 0
  | .function => 1

/-- The kind with a code. -/
def ofCode? (c : UInt8) : Option ComdatKind := all.find? (·.code == c)

end ComdatKind

end WasmTrace

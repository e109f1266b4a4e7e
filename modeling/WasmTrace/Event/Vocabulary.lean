import WasmTrace.Event.Kind
import WasmTrace.Event.Line

/-!
# The vocabulary

Everything that is fixed for a kind of event stands in one table, `Kind.entry`: its name, its role
in the nesting of lines, its signature and the layout of its line.  Kinds whose lines follow the
same pattern share a constructor of entries.

Only kinds whose lines enclose others open a level.  A body, a segment, a global and a constant
expression have a first and a last event too, but these are ordinary lines.
-/

namespace WasmTrace

/-- What an event does to the nesting of lines. -/
inductive Role where
  /-- Its line opens a level, which an event of the kind `closing` closes. -/
  | opens (closing : Kind)
  /-- It closes a level, and its line stands outside of it. -/
  | closes
  /-- It has a line at the current level. -/
  | leaf
  /-- It has no line. -/
  | silent
  deriving DecidableEq, Repr

/-- What is fixed for a kind of event. -/
structure Entry where
  /-- The name in front of each line. -/
  name : String
  /-- The role in the nesting of lines. -/
  role : Role
  /-- The arguments. -/
  signature : Signature
  /-- What a line shows after the name. -/
  layout : Layout signature

namespace Entry

/-- An event with a layout of its own. -/
abbrev shown (name : String) (role : Role) (signature : Signature) (layout : Layout signature) :
    Entry :=
  { name, role, signature, layout }

/-- An event without a line. -/
abbrev silent (name : String) (signature : Signature) : Entry :=
  { name, role := .silent, signature, layout := [] }

/-- The first event of a section, with the size of the section. -/
abbrev sectionStart (name : String) (closing : Kind) : Entry where
  name
  role := .opens closing
  signature := [("size", .u64)]
  layout := [.text "(", .field .first .wideDecimal, .text ")"]

/-- The last event of what a first event opened. -/
abbrev ending (name : String) : Entry := { name, role := .closes, signature := [], layout := [] }

/-- An event without arguments. -/
abbrev bare (name : String) : Entry := { name, role := .leaf, signature := [], layout := [] }

/-- A count or an index without a label. -/
abbrev counter (name argument : String) : Entry where
  name
  role := .leaf
  signature := [(argument, .u32)]
  layout := [.text "(", .field .first .decimal, .text ")"]

/-- An index with a label. -/
abbrev labelled (name : String) (argument : String × String) : Entry where
  name
  role := .leaf
  signature := [(argument.1, .u32)]
  layout := [.text ("(" ++ argument.2 ++ ": "), .field .first .decimal, .text ")"]

/-- Two numbers with labels. -/
abbrev pair (name : String) (one two : String × String) : Entry where
  name
  role := .leaf
  signature := [(one.1, .u32), (two.1, .u32)]
  layout :=
    [.text ("(" ++ one.2 ++ ": "), .field .first .decimal,
      .text (", " ++ two.2 ++ ": "), .field .second .decimal, .text ")"]

/-- An instruction that is shown by its opcode alone. -/
abbrev operator (name : String) : Entry where
  name
  role := .leaf
  signature := [("opcode", .opcode)]
  layout := [.text "(", .field .first .opcode, .text ")"]

/-- An instruction that reads or writes memory. -/
abbrev memoryAccess (name : String) : Entry where
  name
  role := .leaf
  signature := [("opcode", .opcode), ("alignment", .u32), ("offset", .u64)]
  layout :=
    [.text "(opcode: ", .field .first .opcode, .text ", align log2: ", .field .second .decimal,
      .text ", offset: ", .field .third .wideDecimal, .text ")"]

/-- An instruction that opens a block, with the signature of the block. -/
abbrev block (name : String) : Entry where
  name
  role := .leaf
  signature := [("type", .valType)]
  layout := [.text "(sig: ", .field .first .signature, .text ")"]

/-- A part of the section of names. -/
abbrev nameSubsection (name : String) : Entry where
  name
  role := .leaf
  signature := [("index", .u32), ("type", .u32), ("size", .u64)]
  layout :=
    [.text "(index:", .field .first .decimal, .text ", nametype:", .field .second .decimal,
      .text ", size:", .field .third .wideDecimal, .text ")"]

/-- A symbol with a name that stands for an item of the module. -/
abbrev namedSymbol (name item : String) : Entry where
  name
  role := .leaf
  signature := [("index", .u32), ("flags", .u32), ("name", .bytes), (item, .u32)]
  layout :=
    [.text "(name: ", .field .third .raw, .text " flags: 0x", .field .second .hex,
      .text " index: ", .field .fourth .decimal, .text ")"]

end Entry

/-- What is fixed for a kind of event. -/
def Kind.entry : Kind → Entry
  | .onError => .silent "OnError" [("problem", .parseError)]
  | .onSetState => .silent "OnSetState" [("position", .position)]
  | .beginModule => .shown "BeginModule" (.opens .endModule)
      [("version", .u32)]
      [.text "(version: ", .field .first .decimal, .text ")"]
  | .endModule => .ending "EndModule"
  | .beginSection => .silent "BeginSection" [("section", .u32), ("id", .sectionId),
    ("size", .u64)]
  | .beginCustomSection => .shown "BeginCustomSection" (.opens .endCustomSection)
      [("size", .u64), ("name", .bytes)]
      [.text "('", .field .second .raw, .text "', size: ", .field .first .wideDecimal, .text ")"]
  | .endCustomSection => .ending "EndCustomSection"
  | .beginTypeSection => .sectionStart "BeginTypeSection" .endTypeSection
  | .onTypeCount => .counter "OnTypeCount" "count"
  | .onType => .shown "OnType" .leaf
      [("index", .u32), ("params", .valTypes), ("results", .valTypes)]
      [.text "(index: ", .field .first .decimal, .text ", params: ",
        .field .second .typeList, .text ", results: ", .field .third .typeList, .text ")"]
  | .endTypeSection => .ending "EndTypeSection"
  | .beginImportSection => .sectionStart "BeginImportSection" .endImportSection
  | .onImportCount => .counter "OnImportCount" "count"
  | .onImport => .shown "OnImport" .leaf
      [("index", .u32), ("module", .bytes), ("field", .bytes)]
      [.text "(index: ", .field .first .decimal, .text ", module: \"", .field .second .raw,
        .text "\", field: \"", .field .third .raw, .text "\")"]
  | .onImportFunc => .shown "OnImportFunc" .leaf
      [("import", .u32), ("module", .bytes), ("field", .bytes), ("function", .u32),
        ("signature", .u32)]
      [.text "(import_index: ", .field .first .decimal, .text ", func_index: ",
        .field .fourth .decimal, .text ", sig_index: ", .field .fifth .decimal, .text ")"]
  | .onImportTable => .shown "OnImportTable" .leaf
      [("import", .u32), ("module", .bytes), ("field", .bytes), ("table", .u32),
        ("type", .valType), ("limits", .limits)]
      [.text "(import_index: ", .field .first .decimal, .text ", table_index: ",
        .field .fourth .decimal, .text ", elem_type: ", .field .fifth .typeName,
        .text ", ", .field .sixth .limits, .text ")"]
  | .onImportMemory => .shown "OnImportMemory" .leaf
      [("import", .u32), ("module", .bytes), ("field", .bytes), ("memory", .u32),
        ("limits", .limits)]
      [.text "(import_index: ", .field .first .decimal, .text ", memory_index: ",
        .field .fourth .decimal, .text ", ", .field .fifth .limits, .text ")"]
  | .onImportGlobal => .shown "OnImportGlobal" .leaf
      [("import", .u32), ("module", .bytes), ("field", .bytes), ("global", .u32),
        ("type", .valType), ("mutable", .flag)]
      [.text "(import_index: ", .field .first .decimal, .text ", global_index: ",
        .field .fourth .decimal, .text ", type: ", .field .fifth .typeName,
        .text ", mutable: ", .field .sixth .flag, .text ")"]
  | .onImportEvent => .shown "OnImportEvent" .leaf
      [("import", .u32), ("module", .bytes), ("field", .bytes), ("event", .u32),
        ("signature", .u32)]
      [.text "(import_index: ", .field .first .decimal, .text ", event_index: ",
        .field .fourth .decimal, .text ", sig_index: ", .field .fifth .decimal, .text ")"]
  | .endImportSection => .ending "EndImportSection"
  | .beginFunctionSection => .sectionStart "BeginFunctionSection" .endFunctionSection
  | .onFunctionCount => .counter "OnFunctionCount" "count"
  | .onFunction => .pair "OnFunction" ("index", "index") ("signature", "sig_index")
  | .endFunctionSection => .ending "EndFunctionSection"
  | .beginTableSection => .sectionStart "BeginTableSection" .endTableSection
  | .onTableCount => .counter "OnTableCount" "count"
  | .onTable => .shown "OnTable" .leaf
      [("index", .u32), ("type", .valType), ("limits", .limits)]
      [.text "(index: ", .field .first .decimal, .text ", elem_type: ",
        .field .second .typeName, .text ", ", .field .third .limits, .text ")"]
  | .endTableSection => .ending "EndTableSection"
  | .beginMemorySection => .sectionStart "BeginMemorySection" .endMemorySection
  | .onMemoryCount => .counter "OnMemoryCount" "count"
  | .onMemory => .shown "OnMemory" .leaf
      [("index", .u32), ("limits", .limits)]
      [.text "(index: ", .field .first .decimal, .text ", ", .field .second .limits, .text ")"]
  | .endMemorySection => .ending "EndMemorySection"
  | .beginGlobalSection => .sectionStart "BeginGlobalSection" .endGlobalSection
  | .onGlobalCount => .counter "OnGlobalCount" "count"
  | .beginGlobal => .shown "BeginGlobal" .leaf
      [("index", .u32), ("type", .valType), ("mutable", .flag)]
      [.text "(index: ", .field .first .decimal, .text ", type: ", .field .second .typeName,
        .text ", mutable: ", .field .third .flag, .text ")"]
  | .beginGlobalInitExpr => .counter "BeginGlobalInitExpr" "index"
  | .endGlobalInitExpr => .counter "EndGlobalInitExpr" "index"
  | .endGlobal => .counter "EndGlobal" "index"
  | .endGlobalSection => .ending "EndGlobalSection"
  | .beginExportSection => .sectionStart "BeginExportSection" .endExportSection
  | .onExportCount => .counter "OnExportCount" "count"
  | .onExport => .shown "OnExport" .leaf
      [("index", .u32), ("kind", .itemKind), ("item", .u32), ("name", .bytes)]
      [.text "(index: ", .field .first .decimal, .text ", kind: ", .field .second .itemKind,
        .text ", item_index: ", .field .third .decimal, .text ", name: \"",
        .field .fourth .raw, .text "\")"]
  | .endExportSection => .ending "EndExportSection"
  | .beginStartSection => .sectionStart "BeginStartSection" .endStartSection
  | .onStartFunction => .counter "OnStartFunction" "function"
  | .endStartSection => .ending "EndStartSection"
  | .beginCodeSection => .sectionStart "BeginCodeSection" .endCodeSection
  | .onFunctionBodyCount => .counter "OnFunctionBodyCount" "count"
  | .beginFunctionBody => .shown "BeginFunctionBody" .leaf
      [("index", .u32), ("size", .u64)]
      [.text "(", .field .first .decimal, .text ", size:", .field .second .wideDecimal, .text ")"]
  | .onLocalDeclCount => .counter "OnLocalDeclCount" "count"
  | .onLocalDecl => .shown "OnLocalDecl" .leaf
      [("index", .u32), ("count", .u32), ("type", .valType)]
      [.text "(index: ", .field .first .decimal, .text ", count: ", .field .second .decimal,
        .text ", type: ", .field .third .typeName, .text ")"]
  | .onOpcode => .silent "OnOpcode" [("opcode", .opcode)]
  | .onOpcodeBare => .silent "OnOpcodeBare" []
  | .onOpcodeIndex => .silent "OnOpcodeIndex" [("value", .u32)]
  | .onOpcodeIndexIndex => .silent "OnOpcodeIndexIndex" [("value", .u32), ("second", .u32)]
  | .onOpcodeUint32 => .silent "OnOpcodeUint32" [("value", .u32)]
  | .onOpcodeUint32Uint32 => .silent "OnOpcodeUint32Uint32" [("value", .u32), ("second", .u32)]
  | .onOpcodeUint64 => .silent "OnOpcodeUint64" [("value", .u64)]
  | .onOpcodeF32 => .silent "OnOpcodeF32" [("bits", .u32)]
  | .onOpcodeF64 => .silent "OnOpcodeF64" [("bits", .u64)]
  | .onOpcodeV128 => .silent "OnOpcodeV128" [("bits", .vec128)]
  | .onOpcodeBlockSig => .silent "OnOpcodeBlockSig" [("type", .valType)]
  | .onAtomicLoadExpr => .memoryAccess "OnAtomicLoadExpr"
  | .onAtomicStoreExpr => .memoryAccess "OnAtomicStoreExpr"
  | .onAtomicRmwExpr => .memoryAccess "OnAtomicRmwExpr"
  | .onAtomicRmwCmpxchgExpr => .memoryAccess "OnAtomicRmwCmpxchgExpr"
  | .onAtomicWaitExpr => .memoryAccess "OnAtomicWaitExpr"
  | .onAtomicNotifyExpr => .memoryAccess "OnAtomicNotifyExpr"
  | .onBinaryExpr => .operator "OnBinaryExpr"
  | .onBlockExpr => .block "OnBlockExpr"
  | .onBrExpr => .labelled "OnBrExpr" ("depth", "depth")
  | .onBrIfExpr => .labelled "OnBrIfExpr" ("depth", "depth")
  | .onBrOnExnExpr => .pair "OnBrOnExnExpr" ("depth", "depth") ("event", "event_index")
  | .onBrTableExpr => .shown "OnBrTableExpr" .leaf
      [("targets", .indices), ("default", .u32)]
      [.text "(num_targets: ", .field .first .indexCount, .text ", depths: ",
        .field .first .indexList, .text ", default: ", .field .second .decimal, .text ")"]
  | .onCallExpr => .labelled "OnCallExpr" ("function", "func_index")
  | .onCallIndirectExpr => .pair "OnCallIndirectExpr" ("signature", "sig_index")
    ("table", "table_index")
  | .onCatchExpr => .bare "OnCatchExpr"
  | .onCompareExpr => .operator "OnCompareExpr"
  | .onConvertExpr => .operator "OnConvertExpr"
  | .onDropExpr => .bare "OnDropExpr"
  | .onElseExpr => .bare "OnElseExpr"
  | .onEndExpr => .bare "OnEndExpr"
  | .onF32ConstExpr => .shown "OnF32ConstExpr" .leaf
      [("bits", .u32)]
      [.text "(", .field .first .float, .text " (0x", .field .first .hex, .text "))"]
  | .onF64ConstExpr => .shown "OnF64ConstExpr" .leaf
      [("bits", .u64)]
      [.text "(", .field .first .wideFloat, .text " (0x", .field .first .wideHex, .text "))"]
  | .onV128ConstExpr => .shown "OnV128ConstExpr" .leaf
      [("bits", .vec128)]
      [.text "(", .field .first .lanes, .text ")"]
  | .onGlobalGetExpr => .labelled "OnGlobalGetExpr" ("global", "index")
  | .onGlobalSetExpr => .labelled "OnGlobalSetExpr" ("global", "index")
  | .onI32ConstExpr => .shown "OnI32ConstExpr" .leaf
      [("value", .u32)]
      [.text "(", .field .first .decimal, .text " (0x", .field .first .hex, .text "))"]
  | .onI64ConstExpr => .shown "OnI64ConstExpr" .leaf
      [("value", .u64)]
      [.text "(", .field .first .wideDecimal, .text " (0x", .field .first .wideHex, .text "))"]
  | .onIfExpr => .block "OnIfExpr"
  | .onLoadExpr => .memoryAccess "OnLoadExpr"
  | .onLocalGetExpr => .labelled "OnLocalGetExpr" ("local", "index")
  | .onLocalSetExpr => .labelled "OnLocalSetExpr" ("local", "index")
  | .onLocalTeeExpr => .labelled "OnLocalTeeExpr" ("local", "index")
  | .onLoopExpr => .block "OnLoopExpr"
  | .onMemoryCopyExpr => .bare "OnMemoryCopyExpr"
  | .onDataDropExpr => .counter "OnDataDropExpr" "segment"
  | .onMemoryFillExpr => .bare "OnMemoryFillExpr"
  | .onMemoryGrowExpr => .bare "OnMemoryGrowExpr"
  | .onMemoryInitExpr => .counter "OnMemoryInitExpr" "segment"
  | .onMemorySizeExpr => .bare "OnMemorySizeExpr"
  | .onTableCopyExpr => .bare "OnTableCopyExpr"
  | .onElemDropExpr => .counter "OnElemDropExpr" "segment"
  | .onTableInitExpr => .counter "OnTableInitExpr" "segment"
  | .onTableGetExpr => .counter "OnTableGetExpr" "table"
  | .onTableSetExpr => .counter "OnTableSetExpr" "table"
  | .onTableGrowExpr => .counter "OnTableGrowExpr" "table"
  | .onTableSizeExpr => .counter "OnTableSizeExpr" "table"
  | .onRefNullExpr => .bare "OnRefNullExpr"
  | .onRefIsNullExpr => .bare "OnRefIsNullExpr"
  | .onNopExpr => .bare "OnNopExpr"
  | .onRethrowExpr => .bare "OnRethrowExpr"
  | .onReturnCallExpr => .labelled "OnReturnCallExpr" ("function", "func_index")
  | .onReturnCallIndirectExpr => .pair "OnReturnCallIndirectExpr" ("signature", "sig_index")
    ("table", "table_index")
  | .onReturnExpr => .bare "OnReturnExpr"
  | .onSelectExpr => .bare "OnSelectExpr"
  | .onStoreExpr => .memoryAccess "OnStoreExpr"
  | .onThrowExpr => .labelled "OnThrowExpr" ("event", "event_index")
  | .onTryExpr => .block "OnTryExpr"
  | .onUnaryExpr => .operator "OnUnaryExpr"
  | .onTernaryExpr => .operator "OnTernaryExpr"
  | .onUnreachableExpr => .bare "OnUnreachableExpr"
  | .onSimdLaneOpExpr => .shown "OnSimdLaneOpExpr" .leaf
      [("opcode", .opcode), ("value", .u64)]
      [.text " (lane: ", .field .second .wideDecimal, .text ")"]
  | .onSimdShuffleOpExpr => .shown "OnSimdShuffleOpExpr" .leaf
      [("opcode", .opcode), ("value", .vec128)]
      [.text " (lane: ", .field .second .shuffle, .text ")"]
  | .endFunctionBody => .counter "EndFunctionBody" "index"
  | .onEndFunc => .silent "OnEndFunc" []
  | .endCodeSection => .ending "EndCodeSection"
  | .beginElemSection => .sectionStart "BeginElemSection" .endElemSection
  | .onElemSegmentCount => .counter "OnElemSegmentCount" "count"
  | .beginElemSegment => .shown "BeginElemSegment" .leaf
      [("index", .u32), ("table", .u32), ("passive", .flag), ("type", .valType)]
      [.text "(index: ", .field .first .decimal, .text ", table_index: ",
        .field .second .decimal, .text ", passive: ", .field .third .flag,
        .text ", elem_type: ", .field .fourth .typeName, .text ")"]
  | .beginElemSegmentInitExpr => .counter "BeginElemSegmentInitExpr" "index"
  | .endElemSegmentInitExpr => .counter "EndElemSegmentInitExpr" "index"
  | .onElemSegmentElemExprCount => .pair "OnElemSegmentElemExprCount" ("index", "index")
    ("count", "count")
  | .onElemSegmentElemExprRefNull => .counter "OnElemSegmentElemExpr_RefNull" "segment"
  | .onElemSegmentElemExprRefFunc => .pair "OnElemSegmentElemExpr_RefFunc" ("segment", "index")
    ("function", "func_index")
  | .endElemSegment => .counter "EndElemSegment" "index"
  | .endElemSection => .ending "EndElemSection"
  | .beginDataSection => .sectionStart "BeginDataSection" .endDataSection
  | .onDataSegmentCount => .counter "OnDataSegmentCount" "count"
  | .beginDataSegment => .shown "BeginDataSegment" .leaf
      [("index", .u32), ("memory", .u32), ("passive", .flag)]
      [.text "(index: ", .field .first .decimal, .text ", memory_index: ",
        .field .second .decimal, .text ", passive: ", .field .third .flag, .text ")"]
  | .beginDataSegmentInitExpr => .counter "BeginDataSegmentInitExpr" "index"
  | .endDataSegmentInitExpr => .counter "EndDataSegmentInitExpr" "index"
  | .onDataSegmentData => .shown "OnDataSegmentData" .leaf
      [("index", .u32), ("data", .bytes)]
      [.text "(index:", .field .first .decimal, .text ", size:", .field .second .size, .text ")"]
  | .endDataSegment => .counter "EndDataSegment" "index"
  | .endDataSection => .ending "EndDataSection"
  | .beginDataCountSection => .sectionStart "BeginDataCountSection" .endDataCountSection
  | .onDataCount => .counter "OnDataCount" "count"
  | .endDataCountSection => .ending "EndDataCountSection"
  | .beginNamesSection => .sectionStart "BeginNamesSection" .endNamesSection
  | .onModuleNameSubsection => .nameSubsection "OnModuleNameSubsection"
  | .onModuleName => .shown "OnModuleName" .leaf
      [("name", .bytes)]
      [.text "(name: \"", .field .first .raw, .text "\")"]
  | .onFunctionNameSubsection => .nameSubsection "OnFunctionNameSubsection"
  | .onFunctionNamesCount => .counter "OnFunctionNamesCount" "count"
  | .onFunctionName => .shown "OnFunctionName" .leaf
      [("function", .u32), ("name", .bytes)]
      [.text "(index: ", .field .first .decimal, .text ", name: \"", .field .second .raw,
        .text "\")"]
  | .onLocalNameSubsection => .nameSubsection "OnLocalNameSubsection"
  | .onLocalNameFunctionCount => .counter "OnLocalNameFunctionCount" "count"
  | .onLocalNameLocalCount => .pair "OnLocalNameLocalCount" ("function", "index")
    ("count", "count")
  | .onLocalName => .shown "OnLocalName" .leaf
      [("function", .u32), ("local", .u32), ("name", .bytes)]
      [.text "(func_index: ", .field .first .decimal, .text ", local_index: ",
        .field .second .decimal, .text ", name: \"", .field .third .raw, .text "\")"]
  | .endNamesSection => .ending "EndNamesSection"
  | .beginRelocSection => .sectionStart "BeginRelocSection" .endRelocSection
  | .onRelocCount => .pair "OnRelocCount" ("count", "count") ("section", "section")
  | .onReloc => .shown "OnReloc" .leaf
      [("type", .relocKind), ("offset", .u64), ("index", .u32), ("addend", .u32)]
      [.text "(type: ", .field .first .relocKind, .text ", offset: ",
        .field .second .wideDecimal, .text ", index: ", .field .third .decimal,
        .text ", addend: ", .field .fourth .signed, .text ")"]
  | .endRelocSection => .ending "EndRelocSection"
  | .beginDylinkSection => .sectionStart "BeginDylinkSection" .endDylinkSection
  | .onDylinkInfo => .shown "OnDylinkInfo" .leaf
      [("memorySize", .u32), ("memoryAlignment", .u32), ("tableSize", .u32),
        ("tableAlignment", .u32)]
      [.text "(mem_size: ", .field .first .decimal, .text ", mem_align: ",
        .field .second .decimal, .text ", table_size: ", .field .third .decimal,
        .text ", table_align: ", .field .fourth .decimal, .text ")"]
  | .onDylinkNeededCount => .counter "OnDylinkNeededCount" "count"
  | .onDylinkNeeded => .shown "OnDylinkNeeded" .leaf
      [("name", .bytes)]
      [.text "(name: ", .field .first .raw, .text ")"]
  | .endDylinkSection => .ending "EndDylinkSection"
  | .beginLinkingSection => .sectionStart "BeginLinkingSection" .endLinkingSection
  | .onSymbolCount => .counter "OnSymbolCount" "count"
  | .onSymbol => .shown "OnSymbol" .leaf
      [("symbol", .u32), ("type", .symbolKind), ("flags", .u32)]
      [.text "(type: ", .field .second .symbolKind, .text " flags: 0x", .field .third .hex,
        .text ")"]
  | .onDataSymbol => .shown "OnDataSymbol" .leaf
      [("index", .u32), ("flags", .u32), ("name", .bytes), ("segment", .u32), ("offset", .u32),
        ("size", .u32)]
      [.text "(name: ", .field .third .raw, .text " flags: 0x", .field .second .hex, .text ")"]
  | .onFunctionSymbol => .namedSymbol "OnFunctionSymbol" "function"
  | .onGlobalSymbol => .namedSymbol "OnGlobalSymbol" "global"
  | .onSectionSymbol => .shown "OnSectionSymbol" .leaf
      [("index", .u32), ("flags", .u32), ("section", .u32)]
      [.text "(flags: 0x", .field .second .hex, .text " index: ", .field .third .decimal,
        .text ")"]
  | .onEventSymbol => .namedSymbol "OnEventSymbol" "event"
  | .onSegmentInfoCount => .counter "OnSegmentInfoCount" "count"
  | .onSegmentInfo => .shown "OnSegmentInfo" .leaf
      [("index", .u32), ("name", .bytes), ("alignment", .u32), ("flags", .u32)]
      [.text "(", .field .first .signed, .text " name: ", .field .second .raw,
        .text ", alignment: ", .field .third .signed, .text ", flags: 0x",
        .field .fourth .hex, .text ")"]
  | .onInitFunctionCount => .counter "OnInitFunctionCount" "count"
  | .onInitFunction => .shown "OnInitFunction" .leaf
      [("priority", .u32), ("function", .u32)]
      [.text "(", .field .second .signed, .text " priority: ", .field .first .signed, .text ")"]
  | .onComdatCount => .counter "OnComdatCount" "count"
  | .onComdatBegin => .shown "OnComdatBegin" .leaf
      [("name", .bytes), ("flags", .u32), ("count", .u32)]
      [.text "(", .field .first .raw, .text ", flags: ", .field .second .signed,
        .text ", count: ", .field .third .decimal, .text ")"]
  | .onComdatEntry => .shown "OnComdatEntry" .leaf
      [("kind", .comdatKind), ("index", .u32)]
      [.text "(kind: ", .field .first .comdatKind, .text ", index: ",
        .field .second .decimal, .text ")"]
  | .endLinkingSection => .ending "EndLinkingSection"
  | .beginEventSection => .sectionStart "BeginEventSection" .endEventSection
  | .onEventCount => .counter "OnEventCount" "count"
  | .onEventType => .pair "OnEventType" ("index", "index") ("signature", "sig_index")
  | .endEventSection => .ending "EndEventSection"
  | .onInitExprF32ConstExpr => .shown "OnInitExprF32ConstExpr" .leaf
      [("index", .u32), ("bits", .u32)]
      [.text "(index: ", .field .first .decimal, .text ", value: ", .field .second .float,
        .text " (0x", .field .second .hex, .text "))"]
  | .onInitExprF64ConstExpr => .shown "OnInitExprF64ConstExpr" .leaf
      [("index", .u32), ("bits", .u64)]
      [.text "(index: ", .field .first .decimal, .text " value: ",
        .field .second .wideFloat, .text " (0x", .field .second .wideHex, .text "))"]
  | .onInitExprV128ConstExpr => .shown "OnInitExprV128ConstExpr" .leaf
      [("index", .u32), ("bits", .vec128)]
      [.text "(index: ", .field .first .decimal, .text " value: ( ", .field .second .lanes,
        .text "))"]
  | .onInitExprGlobalGetExpr => .pair "OnInitExprGlobalGetExpr" ("index", "index")
    ("global", "global_index")
  | .onInitExprI32ConstExpr => .shown "OnInitExprI32ConstExpr" .leaf
      [("index", .u32), ("value", .u32)]
      [.text "(index: ", .field .first .decimal, .text ", value: ", .field .second .decimal,
        .text ")"]
  | .onInitExprI64ConstExpr => .shown "OnInitExprI64ConstExpr" .leaf
      [("index", .u32), ("value", .u64)]
      [.text "(index: ", .field .first .decimal, .text ", value: ",
        .field .second .wideDecimal, .text ")"]

namespace Kind

/-- The name in front of each line of a kind. -/
def name (k : Kind) : String := k.entry.name

/-- The role of a kind in the nesting of lines. -/
def role (k : Kind) : Role := k.entry.role

/-- The arguments of a kind. -/
def signature (k : Kind) : Signature := k.entry.signature

/-- What a line of a kind shows after the name. -/
def layout (k : Kind) : Layout k.signature := k.entry.layout

/-- The kind that closes the level that this kind opens. -/
def closing? (k : Kind) : Option Kind :=
  match k.role with
  | .opens closing => some closing
  | _ => none

/-- Whether events of a kind have no line. -/
def isSilent (k : Kind) : Bool := k.role == .silent

end Kind

end WasmTrace

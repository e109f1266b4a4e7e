import WasmTrace.Event.Vocabulary

/-!
# Events

An event is a kind with arguments that fit the signature of the kind.

An event is raised by a call with its arguments, one by one.  What stands between a reader and a
handler makes a call of its own for each call that it receives; `Kind.forward` is this call, kind by
kind.  The main statement is `Event.forwarded_eq`: every event is passed on as it came.
-/

namespace WasmTrace

/-- An event raised by a reader. -/
structure Event where
  /-- The kind. -/
  kind : Kind
  /-- The arguments. -/
  args : Args kind.signature

namespace Event

/-- Two events can be compared. -/
instance instDecidableEq : DecidableEq Event
  | ⟨k, a⟩, ⟨l, b⟩ =>
    if h : k = l then
      match decEq (h ▸ a) b with
      | isTrue hab => isTrue (by subst h; exact congrArg _ hab)
      | isFalse hab => isFalse fun he => hab (by cases he; rfl)
    else isFalse fun he => h (congrArg Event.kind he)

/-- The role of an event in the nesting of lines. -/
def role (e : Event) : Role := e.kind.role

/-- The line of an event, part by part: its name, what its layout shows, and a newline.  The
indentation is not part of it. -/
def line (e : Event) : List Bytes :=
  .ofText e.kind.name :: Layout.render e.kind.layout e.args ++ [[Bytes.newline]]

/-- The position that an event publishes, if it publishes one. -/
def position? : Event → Option Position
  | ⟨.onSetState, .cons position .nil⟩ => some position
  | _ => none

end Event

/-! ## Calls -/

namespace Kind

/-- The event of a call, from the kind that is called and all arguments of the call. -/
def call (k : Kind) : k.signature.Fun Event := Args.curry (Event.mk k)

/-- The call that passes an event on, from the arguments that came with the event. -/
def forward : (k : Kind) → k.signature.Fun Event
  | .onError => fun problem => call .onError problem
  | .onSetState => fun position => call .onSetState position
  | .beginModule => fun version => call .beginModule version
  | .endModule => call .endModule
  | .beginSection => fun sectionIndex id size => call .beginSection sectionIndex id size
  | .beginCustomSection => fun size name => call .beginCustomSection size name
  | .endCustomSection => call .endCustomSection
  | .beginTypeSection => fun size => call .beginTypeSection size
  | .onTypeCount => fun count => call .onTypeCount count
  | .onType => fun index params results => call .onType index params results
  | .endTypeSection => call .endTypeSection
  | .beginImportSection => fun size => call .beginImportSection size
  | .onImportCount => fun count => call .onImportCount count
  | .onImport => fun index module field => call .onImport index module field
  | .onImportFunc => fun index module field function signature =>
    call .onImportFunc index module field function signature
  | .onImportTable => fun index module field table type limits =>
    call .onImportTable index module field table type limits
  | .onImportMemory => fun index module field memory limits =>
    call .onImportMemory index module field memory limits
  | .onImportGlobal => fun index module field global type mutable =>
    call .onImportGlobal index module field global type mutable
  | .onImportEvent => fun index module field event signature =>
    call .onImportEvent index module field event signature
  | .endImportSection => call .endImportSection
  | .beginFunctionSection => fun size => call .beginFunctionSection size
  | .onFunctionCount => fun count => call .onFunctionCount count
  | .onFunction => fun index signature => call .onFunction index signature
  | .endFunctionSection => call .endFunctionSection
  | .beginTableSection => fun size => call .beginTableSection size
  | .onTableCount => fun count => call .onTableCount count
  | .onTable => fun index type limits => call .onTable index type limits
  | .endTableSection => call .endTableSection
  | .beginMemorySection => fun size => call .beginMemorySection size
  | .onMemoryCount => fun count => call .onMemoryCount count
  | .onMemory => fun index limits => call .onMemory index limits
  | .endMemorySection => call .endMemorySection
  | .beginGlobalSection => fun size => call .beginGlobalSection size
  | .onGlobalCount => fun count => call .onGlobalCount count
  | .beginGlobal => fun index type mutable => call .beginGlobal index type mutable
  | .beginGlobalInitExpr => fun index => call .beginGlobalInitExpr index
  | .endGlobalInitExpr => fun index => call .endGlobalInitExpr index
  | .endGlobal => fun index => call .endGlobal index
  | .endGlobalSection => call .endGlobalSection
  | .beginExportSection => fun size => call .beginExportSection size
  | .onExportCount => fun count => call .onExportCount count
  | .onExport => fun index kind item name => call .onExport index kind item name
  | .endExportSection => call .endExportSection
  | .beginStartSection => fun size => call .beginStartSection size
  | .onStartFunction => fun function => call .onStartFunction function
  | .endStartSection => call .endStartSection
  | .beginCodeSection => fun size => call .beginCodeSection size
  | .onFunctionBodyCount => fun count => call .onFunctionBodyCount count
  | .beginFunctionBody => fun index size => call .beginFunctionBody index size
  | .onLocalDeclCount => fun count => call .onLocalDeclCount count
  | .onLocalDecl => fun index count type => call .onLocalDecl index count type
  | .onOpcode => fun opcode => call .onOpcode opcode
  | .onOpcodeBare => call .onOpcodeBare
  | .onOpcodeIndex => fun value => call .onOpcodeIndex value
  | .onOpcodeIndexIndex => fun value second => call .onOpcodeIndexIndex value second
  | .onOpcodeUint32 => fun value => call .onOpcodeUint32 value
  | .onOpcodeUint32Uint32 => fun value second => call .onOpcodeUint32Uint32 value second
  | .onOpcodeUint64 => fun value => call .onOpcodeUint64 value
  | .onOpcodeF32 => fun bits => call .onOpcodeF32 bits
  | .onOpcodeF64 => fun bits => call .onOpcodeF64 bits
  | .onOpcodeV128 => fun bits => call .onOpcodeV128 bits
  | .onOpcodeBlockSig => fun type => call .onOpcodeBlockSig type
  | .onAtomicLoadExpr => fun opcode alignment offset =>
    call .onAtomicLoadExpr opcode alignment offset
  | .onAtomicStoreExpr => fun opcode alignment offset =>
    call .onAtomicStoreExpr opcode alignment offset
  | .onAtomicRmwExpr => fun opcode alignment offset => call .onAtomicRmwExpr opcode alignment offset
  | .onAtomicRmwCmpxchgExpr => fun opcode alignment offset =>
    call .onAtomicRmwCmpxchgExpr opcode alignment offset
  | .onAtomicWaitExpr => fun opcode alignment offset =>
    call .onAtomicWaitExpr opcode alignment offset
  | .onAtomicNotifyExpr => fun opcode alignment offset =>
    call .onAtomicNotifyExpr opcode alignment offset
  | .onBinaryExpr => fun opcode => call .onBinaryExpr opcode
  | .onBlockExpr => fun type => call .onBlockExpr type
  | .onBrExpr => fun depth => call .onBrExpr depth
  | .onBrIfExpr => fun depth => call .onBrIfExpr depth
  | .onBrOnExnExpr => fun depth event => call .onBrOnExnExpr depth event
  | .onBrTableExpr => fun targets default => call .onBrTableExpr targets default
  | .onCallExpr => fun function => call .onCallExpr function
  | .onCallIndirectExpr => fun signature table => call .onCallIndirectExpr signature table
  | .onCatchExpr => call .onCatchExpr
  | .onCompareExpr => fun opcode => call .onCompareExpr opcode
  | .onConvertExpr => fun opcode => call .onConvertExpr opcode
  | .onDropExpr => call .onDropExpr
  | .onElseExpr => call .onElseExpr
  | .onEndExpr => call .onEndExpr
  | .onF32ConstExpr => fun bits => call .onF32ConstExpr bits
  | .onF64ConstExpr => fun bits => call .onF64ConstExpr bits
  | .onV128ConstExpr => fun bits => call .onV128ConstExpr bits
  | .onGlobalGetExpr => fun global => call .onGlobalGetExpr global
  | .onGlobalSetExpr => fun global => call .onGlobalSetExpr global
  | .onI32ConstExpr => fun value => call .onI32ConstExpr value
  | .onI64ConstExpr => fun value => call .onI64ConstExpr value
  | .onIfExpr => fun type => call .onIfExpr type
  | .onLoadExpr => fun opcode alignment offset => call .onLoadExpr opcode alignment offset
  | .onLocalGetExpr => fun localIndex => call .onLocalGetExpr localIndex
  | .onLocalSetExpr => fun localIndex => call .onLocalSetExpr localIndex
  | .onLocalTeeExpr => fun localIndex => call .onLocalTeeExpr localIndex
  | .onLoopExpr => fun type => call .onLoopExpr type
  | .onMemoryCopyExpr => call .onMemoryCopyExpr
  | .onDataDropExpr => fun segment => call .onDataDropExpr segment
  | .onMemoryFillExpr => call .onMemoryFillExpr
  | .onMemoryGrowExpr => call .onMemoryGrowExpr
  | .onMemoryInitExpr => fun segment => call .onMemoryInitExpr segment
  | .onMemorySizeExpr => call .onMemorySizeExpr
  | .onTableCopyExpr => call .onTableCopyExpr
  | .onElemDropExpr => fun segment => call .onElemDropExpr segment
  | .onTableInitExpr => fun segment => call .onTableInitExpr segment
  | .onTableGetExpr => fun table => call .onTableGetExpr table
  | .onTableSetExpr => fun table => call .onTableSetExpr table
  | .onTableGrowExpr => fun table => call .onTableGrowExpr table
  | .onTableSizeExpr => fun table => call .onTableSizeExpr table
  | .onRefNullExpr => call .onRefNullExpr
  | .onRefIsNullExpr => call .onRefIsNullExpr
  | .onNopExpr => call .onNopExpr
  | .onRethrowExpr => call .onRethrowExpr
  | .onReturnCallExpr => fun function => call .onReturnCallExpr function
  | .onReturnCallIndirectExpr => fun signature table =>
    call .onReturnCallIndirectExpr signature table
  | .onReturnExpr => call .onReturnExpr
  | .onSelectExpr => call .onSelectExpr
  | .onStoreExpr => fun opcode alignment offset => call .onStoreExpr opcode alignment offset
  | .onThrowExpr => fun event => call .onThrowExpr event
  | .onTryExpr => fun type => call .onTryExpr type
  | .onUnaryExpr => fun opcode => call .onUnaryExpr opcode
  | .onTernaryExpr => fun opcode => call .onTernaryExpr opcode
  | .onUnreachableExpr => call .onUnreachableExpr
  | .onSimdLaneOpExpr => fun opcode value => call .onSimdLaneOpExpr opcode value
  | .onSimdShuffleOpExpr => fun opcode value => call .onSimdShuffleOpExpr opcode value
  | .endFunctionBody => fun index => call .endFunctionBody index
  | .onEndFunc => call .onEndFunc
  | .endCodeSection => call .endCodeSection
  | .beginElemSection => fun size => call .beginElemSection size
  | .onElemSegmentCount => fun count => call .onElemSegmentCount count
  | .beginElemSegment => fun index table passive type =>
    call .beginElemSegment index table passive type
  | .beginElemSegmentInitExpr => fun index => call .beginElemSegmentInitExpr index
  | .endElemSegmentInitExpr => fun index => call .endElemSegmentInitExpr index
  | .onElemSegmentElemExprCount => fun index count => call .onElemSegmentElemExprCount index count
  | .onElemSegmentElemExprRefNull => fun segment => call .onElemSegmentElemExprRefNull segment
  | .onElemSegmentElemExprRefFunc => fun segment function =>
    call .onElemSegmentElemExprRefFunc segment function
  | .endElemSegment => fun index => call .endElemSegment index
  | .endElemSection => call .endElemSection
  | .beginDataSection => fun size => call .beginDataSection size
  | .onDataSegmentCount => fun count => call .onDataSegmentCount count
  | .beginDataSegment => fun index memory passive => call .beginDataSegment index memory passive
  | .beginDataSegmentInitExpr => fun index => call .beginDataSegmentInitExpr index
  | .endDataSegmentInitExpr => fun index => call .endDataSegmentInitExpr index
  | .onDataSegmentData => fun index data => call .onDataSegmentData index data
  | .endDataSegment => fun index => call .endDataSegment index
  | .endDataSection => call .endDataSection
  | .beginDataCountSection => fun size => call .beginDataCountSection size
  | .onDataCount => fun count => call .onDataCount count
  | .endDataCountSection => call .endDataCountSection
  | .beginNamesSection => fun size => call .beginNamesSection size
  | .onModuleNameSubsection => fun index type size => call .onModuleNameSubsection index type size
  | .onModuleName => fun name => call .onModuleName name
  | .onFunctionNameSubsection => fun index type size =>
    call .onFunctionNameSubsection index type size
  | .onFunctionNamesCount => fun count => call .onFunctionNamesCount count
  | .onFunctionName => fun function name => call .onFunctionName function name
  | .onLocalNameSubsection => fun index type size => call .onLocalNameSubsection index type size
  | .onLocalNameFunctionCount => fun count => call .onLocalNameFunctionCount count
  | .onLocalNameLocalCount => fun function count => call .onLocalNameLocalCount function count
  | .onLocalName => fun function localIndex name => call .onLocalName function localIndex name
  | .endNamesSection => call .endNamesSection
  | .beginRelocSection => fun size => call .beginRelocSection size
  | .onRelocCount => fun count sectionIndex => call .onRelocCount count sectionIndex
  | .onReloc => fun type offset index addend => call .onReloc type offset index addend
  | .endRelocSection => call .endRelocSection
  | .beginDylinkSection => fun size => call .beginDylinkSection size
  | .onDylinkInfo => fun memorySize memoryAlignment tableSize tableAlignment =>
    call .onDylinkInfo memorySize memoryAlignment tableSize tableAlignment
  | .onDylinkNeededCount => fun count => call .onDylinkNeededCount count
  | .onDylinkNeeded => fun name => call .onDylinkNeeded name
  | .endDylinkSection => call .endDylinkSection
  | .beginLinkingSection => fun size => call .beginLinkingSection size
  | .onSymbolCount => fun count => call .onSymbolCount count
  | .onSymbol => fun symbol type flags => call .onSymbol symbol type flags
  | .onDataSymbol => fun index flags name segment offset size =>
    call .onDataSymbol index flags name segment offset size
  | .onFunctionSymbol => fun index flags name function =>
    call .onFunctionSymbol index flags name function
  | .onGlobalSymbol => fun index flags name global => call .onGlobalSymbol index flags name global
  | .onSectionSymbol => fun index flags sectionIndex =>
    call .onSectionSymbol index flags sectionIndex
  | .onEventSymbol => fun index flags name event => call .onEventSymbol index flags name event
  | .onSegmentInfoCount => fun count => call .onSegmentInfoCount count
  | .onSegmentInfo => fun index name alignment flags =>
    call .onSegmentInfo index name alignment flags
  | .onInitFunctionCount => fun count => call .onInitFunctionCount count
  | .onInitFunction => fun priority function => call .onInitFunction priority function
  | .onComdatCount => fun count => call .onComdatCount count
  | .onComdatBegin => fun name flags count => call .onComdatBegin name flags count
  | .onComdatEntry => fun kind index => call .onComdatEntry kind index
  | .endLinkingSection => call .endLinkingSection
  | .beginEventSection => fun size => call .beginEventSection size
  | .onEventCount => fun count => call .onEventCount count
  | .onEventType => fun index signature => call .onEventType index signature
  | .endEventSection => call .endEventSection
  | .onInitExprF32ConstExpr => fun index bits => call .onInitExprF32ConstExpr index bits
  | .onInitExprF64ConstExpr => fun index bits => call .onInitExprF64ConstExpr index bits
  | .onInitExprV128ConstExpr => fun index bits => call .onInitExprV128ConstExpr index bits
  | .onInitExprGlobalGetExpr => fun index global => call .onInitExprGlobalGetExpr index global
  | .onInitExprI32ConstExpr => fun index value => call .onInitExprI32ConstExpr index value
  | .onInitExprI64ConstExpr => fun index value => call .onInitExprI64ConstExpr index value

/-- Each kind calls the same kind, with all arguments in their places. -/
theorem forward_eq_call (k : Kind) : k.forward = k.call := by
  cases k <;> rfl

end Kind

namespace Event

/-- The event of the call that passes an event on. -/
def forwarded (e : Event) : Event := e.args.apply e.kind.forward

/-- **Every event is passed on as it came.** -/
@[simp]
theorem forwarded_eq (e : Event) : e.forwarded = e := by
  rw [forwarded, Kind.forward_eq_call, Kind.call, Args.apply_curry]

end Event

end WasmTrace

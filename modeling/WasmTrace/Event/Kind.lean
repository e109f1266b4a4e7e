/-!
# Kinds of events

A reader of a binary raises one event for everything it meets.  Their kinds are listed in the
order in which a binary is read: the module, its sections with what they hold, the names, the
relocations and the symbols, and the constant expressions that other sections contain.
-/

namespace WasmTrace

/-- A kind of event. -/
inductive Kind where
  | onError
  | onSetState
  | beginModule
  | endModule
  | beginSection
  | beginCustomSection
  | endCustomSection
  | beginTypeSection
  | onTypeCount
  | onType
  | endTypeSection
  | beginImportSection
  | onImportCount
  | onImport
  | onImportFunc
  | onImportTable
  | onImportMemory
  | onImportGlobal
  | onImportEvent
  | endImportSection
  | beginFunctionSection
  | onFunctionCount
  | onFunction
  | endFunctionSection
  | beginTableSection
  | onTableCount
  | onTable
  | endTableSection
  | beginMemorySection
  | onMemoryCount
  | onMemory
  | endMemorySection
  | beginGlobalSection
  | onGlobalCount
  | beginGlobal
  | beginGlobalInitExpr
  | endGlobalInitExpr
  | endGlobal
  | endGlobalSection
  | beginExportSection
  | onExportCount
  | onExport
  | endExportSection
  | beginStartSection
  | onStartFunction
  | endStartSection
  | beginCodeSection
  | onFunctionBodyCount
  | beginFunctionBody
  | onLocalDeclCount
  | onLocalDecl
  | onOpcode
  | onOpcodeBare
  | onOpcodeIndex
  | onOpcodeIndexIndex
  | onOpcodeUint32
  | onOpcodeUint32Uint32
  | onOpcodeUint64
  | onOpcodeF32
  | onOpcodeF64
  | onOpcodeV128
  | onOpcodeBlockSig
  | onAtomicLoadExpr
  | onAtomicStoreExpr
  | onAtomicRmwExpr
  | onAtomicRmwCmpxchgExpr
  | onAtomicWaitExpr
  | onAtomicNotifyExpr
  | onBinaryExpr
  | onBlockExpr
  | onBrExpr
  | onBrIfExpr
  | onBrOnExnExpr
  | onBrTableExpr
  | onCallExpr
  | onCallIndirectExpr
  | onCatchExpr
  | onCompareExpr
  | onConvertExpr
  | onDropExpr
  | onElseExpr
  | onEndExpr
  | onF32ConstExpr
  | onF64ConstExpr
  | onV128ConstExpr
  | onGlobalGetExpr
  | onGlobalSetExpr
  | onI32ConstExpr
  | onI64ConstExpr
  | onIfExpr
  | onLoadExpr
  | onLocalGetExpr
  | onLocalSetExpr
  | onLocalTeeExpr
  | onLoopExpr
  | onMemoryCopyExpr
  | onDataDropExpr
  | onMemoryFillExpr
  | onMemoryGrowExpr
  | onMemoryInitExpr
  | onMemorySizeExpr
  | onTableCopyExpr
  | onElemDropExpr
  | onTableInitExpr
  | onTableGetExpr
  | onTableSetExpr
  | onTableGrowExpr
  | onTableSizeExpr
  | onRefNullExpr
  | onRefIsNullExpr
  | onNopExpr
  | onRethrowExpr
  | onReturnCallExpr
  | onReturnCallIndirectExpr
  | onReturnExpr
  | onSelectExpr
  | onStoreExpr
  | onThrowExpr
  | onTryExpr
  | onUnaryExpr
  | onTernaryExpr
  | onUnreachableExpr
  | onSimdLaneOpExpr
  | onSimdShuffleOpExpr
  | endFunctionBody
  | onEndFunc
  | endCodeSection
  | beginElemSection
  | onElemSegmentCount
  | beginElemSegment
  | beginElemSegmentInitExpr
  | endElemSegmentInitExpr
  | onElemSegmentElemExprCount
  | onElemSegmentElemExprRefNull
  | onElemSegmentElemExprRefFunc
  | endElemSegment
  | endElemSection
  | beginDataSection
  | onDataSegmentCount
  | beginDataSegment
  | beginDataSegmentInitExpr
  | endDataSegmentInitExpr
  | onDataSegmentData
  | endDataSegment
  | endDataSection
  | beginDataCountSection
  | onDataCount
  | endDataCountSection
  | beginNamesSection
  | onModuleNameSubsection
  | onModuleName
  | onFunctionNameSubsection
  | onFunctionNamesCount
  | onFunctionName
  | onLocalNameSubsection
  | onLocalNameFunctionCount
  | onLocalNameLocalCount
  | onLocalName
  | endNamesSection
  | beginRelocSection
  | onRelocCount
  | onReloc
  | endRelocSection
  | beginDylinkSection
  | onDylinkInfo
  | onDylinkNeededCount
  | onDylinkNeeded
  | endDylinkSection
  | beginLinkingSection
  | onSymbolCount
  | onSymbol
  | onDataSymbol
  | onFunctionSymbol
  | onGlobalSymbol
  | onSectionSymbol
  | onEventSymbol
  | onSegmentInfoCount
  | onSegmentInfo
  | onInitFunctionCount
  | onInitFunction
  | onComdatCount
  | onComdatBegin
  | onComdatEntry
  | endLinkingSection
  | beginEventSection
  | onEventCount
  | onEventType
  | endEventSection
  | onInitExprF32ConstExpr
  | onInitExprF64ConstExpr
  | onInitExprV128ConstExpr
  | onInitExprGlobalGetExpr
  | onInitExprI32ConstExpr
  | onInitExprI64ConstExpr
  deriving DecidableEq, Repr

namespace Kind

/-- All kinds, in order. -/
def all : List Kind :=
  [.onError, .onSetState, .beginModule, .endModule, .beginSection, .beginCustomSection,
    .endCustomSection, .beginTypeSection, .onTypeCount, .onType, .endTypeSection,
    .beginImportSection, .onImportCount, .onImport, .onImportFunc, .onImportTable,
    .onImportMemory, .onImportGlobal, .onImportEvent, .endImportSection, .beginFunctionSection,
    .onFunctionCount, .onFunction, .endFunctionSection, .beginTableSection, .onTableCount,
    .onTable, .endTableSection, .beginMemorySection, .onMemoryCount, .onMemory, .endMemorySection,
    .beginGlobalSection, .onGlobalCount, .beginGlobal, .beginGlobalInitExpr, .endGlobalInitExpr,
    .endGlobal, .endGlobalSection, .beginExportSection, .onExportCount, .onExport,
    .endExportSection, .beginStartSection, .onStartFunction, .endStartSection, .beginCodeSection,
    .onFunctionBodyCount, .beginFunctionBody, .onLocalDeclCount, .onLocalDecl, .onOpcode,
    .onOpcodeBare, .onOpcodeIndex, .onOpcodeIndexIndex, .onOpcodeUint32, .onOpcodeUint32Uint32,
    .onOpcodeUint64, .onOpcodeF32, .onOpcodeF64, .onOpcodeV128, .onOpcodeBlockSig,
    .onAtomicLoadExpr, .onAtomicStoreExpr, .onAtomicRmwExpr, .onAtomicRmwCmpxchgExpr,
    .onAtomicWaitExpr, .onAtomicNotifyExpr, .onBinaryExpr, .onBlockExpr, .onBrExpr, .onBrIfExpr,
    .onBrOnExnExpr, .onBrTableExpr, .onCallExpr, .onCallIndirectExpr, .onCatchExpr,
    .onCompareExpr, .onConvertExpr, .onDropExpr, .onElseExpr, .onEndExpr, .onF32ConstExpr,
    .onF64ConstExpr, .onV128ConstExpr, .onGlobalGetExpr, .onGlobalSetExpr, .onI32ConstExpr,
    .onI64ConstExpr, .onIfExpr, .onLoadExpr, .onLocalGetExpr, .onLocalSetExpr, .onLocalTeeExpr,
    .onLoopExpr, .onMemoryCopyExpr, .onDataDropExpr, .onMemoryFillExpr, .onMemoryGrowExpr,
    .onMemoryInitExpr, .onMemorySizeExpr, .onTableCopyExpr, .onElemDropExpr, .onTableInitExpr,
    .onTableGetExpr, .onTableSetExpr, .onTableGrowExpr, .onTableSizeExpr, .onRefNullExpr,
    .onRefIsNullExpr, .onNopExpr, .onRethrowExpr, .onReturnCallExpr, .onReturnCallIndirectExpr,
    .onReturnExpr, .onSelectExpr, .onStoreExpr, .onThrowExpr, .onTryExpr, .onUnaryExpr,
    .onTernaryExpr, .onUnreachableExpr, .onSimdLaneOpExpr, .onSimdShuffleOpExpr, .endFunctionBody,
    .onEndFunc, .endCodeSection, .beginElemSection, .onElemSegmentCount, .beginElemSegment,
    .beginElemSegmentInitExpr, .endElemSegmentInitExpr, .onElemSegmentElemExprCount,
    .onElemSegmentElemExprRefNull, .onElemSegmentElemExprRefFunc, .endElemSegment,
    .endElemSection, .beginDataSection, .onDataSegmentCount, .beginDataSegment,
    .beginDataSegmentInitExpr, .endDataSegmentInitExpr, .onDataSegmentData, .endDataSegment,
    .endDataSection, .beginDataCountSection, .onDataCount, .endDataCountSection,
    .beginNamesSection, .onModuleNameSubsection, .onModuleName, .onFunctionNameSubsection,
    .onFunctionNamesCount, .onFunctionName, .onLocalNameSubsection, .onLocalNameFunctionCount,
    .onLocalNameLocalCount, .onLocalName, .endNamesSection, .beginRelocSection, .onRelocCount,
    .onReloc, .endRelocSection, .beginDylinkSection, .onDylinkInfo, .onDylinkNeededCount,
    .onDylinkNeeded, .endDylinkSection, .beginLinkingSection, .onSymbolCount, .onSymbol,
    .onDataSymbol, .onFunctionSymbol, .onGlobalSymbol, .onSectionSymbol, .onEventSymbol,
    .onSegmentInfoCount, .onSegmentInfo, .onInitFunctionCount, .onInitFunction, .onComdatCount,
    .onComdatBegin, .onComdatEntry, .endLinkingSection, .beginEventSection, .onEventCount,
    .onEventType, .endEventSection, .onInitExprF32ConstExpr, .onInitExprF64ConstExpr,
    .onInitExprV128ConstExpr, .onInitExprGlobalGetExpr, .onInitExprI32ConstExpr,
    .onInitExprI64ConstExpr]

/-- The position of a kind in the order. -/
def position (k : Kind) : Nat := all.idxOf k

end Kind

end WasmTrace

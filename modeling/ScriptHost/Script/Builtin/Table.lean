import ScriptHost.Script.Builtin.Buffer
import ScriptHost.Script.Builtin.Collection
import ScriptHost.Script.Builtin.Date
import ScriptHost.Script.Builtin.Global
import ScriptHost.Script.Builtin.Json
import ScriptHost.Script.Builtin.Number
import ScriptHost.Script.Builtin.Pattern
import ScriptHost.Script.Builtin.Promise
import ScriptHost.Script.Builtin.Text
import ScriptHost.Script.Evaluate.Perform

/-! What each built-in function does, and the interpreter that knows them all. -/

namespace ScriptHost.Script

namespace Comp

/-- Keeps the functions that the executor of a promise is given. Each may be given once. -/
def keepResolvers (resolve reject : Cell) (i : Invocation) : Comp Value := do
  let kept ← read fun h => ((h.cell resolve).getD .undefined, (h.cell reject).getD .undefined)
  unless kept.1.isUndefined && kept.2.isUndefined do typeError "resolving function already set"
  setCell resolve (i.arg 0)
  setCell reject (i.arg 1)
  return .undefined

/-- Ends the request to return that an asynchronous generator had after its end. -/
def finishGenerator (generator : Ref) (rejects : Bool) (v : Value) : Comp Value := do
  markGenerator generator .finished
  answerRequest generator (if rejects then .error v else .ok (v, true))
  discard (ask (.drain generator))
  return .undefined

/-- The signal that continues what waited for a promise. -/
def continuing (rejects : Bool) (v : Value) : Signal := if rejects then .fail v else .next v

end Comp

/-- What a built-in function does with an invocation. -/
def builtins (f : Native) (i : Invocation) : Comp Value := do
  match f with
  | .object f => Comp.objectFunction f i
  | .function f => Comp.functionFunction f i
  | .reflect f => Comp.reflectFunction f i
  | .proxy =>
    Comp.requireNew i
    return .object (← Comp.newProxy i)
  | .proxyRevocable => Comp.revocableProxy i
  | .revoke proxy => Comp.revokeProxy proxy
  | .error kind => Comp.makeError kind i
  | .errorToString => Comp.errorText i.this
  | .captureStackTrace => Comp.captureTrace (i.arg 0)
  | .array f => Comp.arrayFunction f i
  | .typedArray f => Comp.typedFunction f i
  | .string f => Comp.textFunction f i
  | .number f => Comp.numberFunction f i
  | .primitive f => Comp.primitiveFunction f i
  | .math f => Comp.mathFunction f i
  | .jsonParse => Comp.parseJson i
  | .jsonStringify => Comp.stringifyJson i
  | .collection f => Comp.collectionFunction f i
  | .promise f => Comp.promiseFunction f i
  | .iterator .patternNext => Comp.nextMatch i.this
  | .iterator f => Comp.iteratorFunction f i
  | .date f => Comp.dateFunction f i
  | .pattern f => Comp.patternFunction f i
  | .buffer f => Comp.bufferFunction f i
  | .global f => Comp.globalFunction f i
  | .console level => Comp.printLine level i.args
  | .settle promise called rejects =>
    Comp.settleOnce promise called rejects (i.arg 0)
    return .undefined
  | .executor resolve reject => Comp.keepResolvers resolve reject i
  | .part how called index values done remaining =>
    Comp.settlePart how called index values done remaining (i.arg 0)
  | .finallyThen action constructor rejects =>
    Comp.finallyThen action constructor rejects (i.arg 0)
  | .pass v rejects => if rejects then Comp.throw v else return v
  | .continueAsync waiting rejects =>
    discard (Comp.ask (.advance waiting (Comp.continuing rejects (i.arg 0))))
    return .undefined
  | .continueAsyncGenerator generator rejects =>
    discard (Comp.ask (.advanceGenerator generator (Comp.continuing rejects (i.arg 0))))
    return .undefined
  | .finishAsyncGenerator generator rejects => Comp.finishGenerator generator rejects (i.arg 0)
  | .unwrapStep done => Comp.stepObject (i.arg 0) done
  | .closeAndThrow iterator =>
    Comp.closeQuietly iterator
    Comp.throw (i.arg 0)
  | .finishImport index resolve reject rejects =>
    if rejects then Comp.call reject .undefined [i.arg 0]
    else Comp.call resolve .undefined [.object (← Comp.namespaceOf index)]

/-- The interpreter of scripts. -/
def scripts : Interpreter := interpreter builtins

end ScriptHost.Script

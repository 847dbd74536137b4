import ScriptLint.Environment.Basic

/-!
# The built-in environments

The globals of the language editions, of browsers, of workers and of server
processes.
-/

namespace ScriptLint

/-! ## Names -/

def languageGlobals : List String := [
  "Array", "Boolean", "Date", "Error", "EvalError", "Function", "Infinity", "JSON", "Math",
  "NaN", "Number", "Object", "RangeError", "ReferenceError", "RegExp", "String", "SyntaxError",
  "TypeError", "URIError", "decodeURI", "decodeURIComponent", "encodeURI",
  "encodeURIComponent", "escape", "eval", "isFinite", "isNaN", "parseFloat", "parseInt",
  "undefined", "unescape"]

def addedGlobals : List (Nat × List String) := [
  (2015, [
    "ArrayBuffer", "DataView", "Float32Array", "Float64Array", "Int8Array", "Int16Array",
    "Int32Array", "Map", "Promise", "Proxy", "Reflect", "Set", "Symbol", "Uint8Array",
    "Uint8ClampedArray", "Uint16Array", "Uint32Array", "WeakMap", "WeakSet"]),
  (2017, [
    "Atomics", "SharedArrayBuffer"]),
  (2020, [
    "BigInt", "BigInt64Array", "BigUint64Array", "globalThis"]),
  (2021, [
    "AggregateError", "FinalizationRegistry", "WeakRef"])]

def sharedGlobals : List String := [
  "console", "setTimeout", "clearTimeout", "setInterval", "clearInterval", "queueMicrotask",
  "URL", "URLSearchParams", "TextEncoder", "TextDecoder"]

def browserGlobals : List String := [
  "window", "document", "navigator", "location", "history", "screen", "self", "top", "parent",
  "frames", "console", "alert", "confirm", "prompt", "fetch", "localStorage", "sessionStorage",
  "requestAnimationFrame", "cancelAnimationFrame", "getComputedStyle", "addEventListener",
  "removeEventListener", "dispatchEvent", "performance", "crypto", "atob", "btoa", "Element",
  "HTMLElement", "Node", "Event", "CustomEvent", "XMLHttpRequest", "WebSocket", "Worker",
  "Blob", "FormData", "Headers", "Request", "Response"]

def processGlobals : List String := [
  "process", "require", "module", "__dirname", "__filename", "Buffer", "global",
  "setImmediate", "clearImmediate", "structuredClone"]

def workerGlobals : List String := [
  "self", "postMessage", "importScripts", "close", "fetch"]

/-! ## Environments -/

namespace Environment

def edition (year : Nat) : Environment :=
  let names := addedGlobals.filter (·.1 ≤ year)
  let globals := names.foldl (fun environment entry => environment.readonly entry.2)
    (empty.readonly languageGlobals)
  { globals with syntaxVersion := SyntaxVersion.ofNumber? year }

def browser : Environment :=
  ((empty.readonly browserGlobals).readonly sharedGlobals).writable
    ["name", "status", "onload", "onerror", "onresize"]

def process : Environment :=
  { ((empty.readonly processGlobals).readonly sharedGlobals).writable ["exports"] with
    sourceType := some .commonJs }

def commonJs : Environment :=
  { (empty.readonly ["require", "module"]).writable ["exports"] with
    sourceType := some .commonJs }

def worker : Environment :=
  ((empty.readonly workerGlobals).readonly sharedGlobals).writable ["onmessage", "onerror"]

end Environment

namespace EnvironmentTable

def alwaysInForce : String := "builtin"

def editionYears : List Nat := (List.range 10).map (2015 + ·)

def builtIn : EnvironmentTable :=
  Dictionary.ofList ([(alwaysInForce, Environment.empty.readonly languageGlobals),
    ("browser", .browser), ("node", .process), ("commonjs", .commonJs), ("worker", .worker),
    ("shared-node-browser", Environment.empty.readonly sharedGlobals),
    ("es6", .edition 2015)] ++
    editionYears.map fun year => ("es" ++ Text.natural year, .edition year))

end EnvironmentTable

end ScriptLint

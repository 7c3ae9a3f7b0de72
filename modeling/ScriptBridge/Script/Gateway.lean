import ScriptBridge.Script.Evaluation
import ScriptBridge.Script.Standard

/-!
# The script half of stubs

Stubs are texts that call a few functions of the script side: one makes the object of a plugin or of
a reference, one posts what a method is called with, one defines a property. These functions are
scripts themselves. They are kept by one global object that nothing can change, and reach native
code through two functions that post messages.

Functions among arguments stay on the script side, under numbers, until native code completes them.
A property yields what it was written with, or else what its stub says, which is evaluated when it
is first read. The objects of stubs keep what is needed for that in members that listings leave out.
-/

namespace ScriptBridge.Script

namespace Gateway

/-- The text of a script, of which the braces are given as double brackets. -/
def braced (text : String) : String :=
  text.map fun c => if c = '⟦' then '\x7b' else if c = '⟧' then '\x7d' else c

/-- A script that yields the function which adds the script half to a global object; the function
also wants one that follows paths. -/
def text : String := braced "(function (global, lookup) ⟦
    'use strict';

    var post = global.__latchPostMessage;
    var postSync = global.__latchPostMessageSync;
    var slice = Array.prototype.slice;
    var hasOwn = Object.prototype.hasOwnProperty;
    var callbacks = ⟦⟧;
    var lastCallback = 0;

    function encode(opcode, target, operand) ⟦
        var message = ⟦ $opcode: opcode, $target: target ⟧;
        if (operand !== undefined) ⟦
            message.$operand = operand;
        ⟧
        return JSON.stringify(message);
    ⟧

    function marshal(args) ⟦
        return args.map(function (arg) ⟦
            if (typeof arg !== 'function') ⟦
                return arg;
            ⟧
            var id = ++lastCallback;
            callbacks[id] = arg;
            return ⟦ $callback: id ⟧;
        ⟧);
    ⟧

    function hidden(obj, key, value) ⟦
        Object.defineProperty(obj, key, ⟦ value: value, writable: true, configurable: true ⟧);
    ⟧

    function attach(obj, channel, target, owner) ⟦
        hidden(obj, '$channel', channel);
        hidden(obj, '$target', target);
        hidden(obj, '$owner', owner);
        hidden(obj, '$values', ⟦⟧);
        hidden(obj, 'dispose', function () ⟦
            LatchScripting.dispose(this);
        ⟧);
        return obj;
    ⟧

    function callable(base, self) ⟦
        return function () ⟦
            return base.apply(self(), arguments);
        ⟧;
    ⟧

    var LatchScripting = ⟦
        createPlugin: function (channel, namespace, base) ⟦
            var plugin;
            if (typeof base === 'string') ⟦
                var lastId = 0;
                plugin = function () ⟦
                    var id = ++lastId;
                    var instance = attach(Object.create(plugin), channel, id, plugin);
                    plugin[id] = instance;
                    post(channel, encode('+', id, slice.call(arguments)));
                    return instance;
                ⟧;
            ⟧ else if (typeof base === 'function') ⟦
                plugin = callable(base, function () ⟦ return plugin; ⟧);
            ⟧ else ⟦
                plugin = ⟦⟧;
            ⟧
            attach(plugin, channel, 0, null);

            var slot = lookup(namespace, true);
            slot.scope[slot.key] = plugin;
            return plugin;
        ⟧,

        createReference: function (channel, owner, id, base) ⟦
            var slot = lookup(owner, false);
            var parent = slot && slot.scope[slot.key];
            if (!parent) ⟦
                throw new Error('no plugin is bound at ' + owner);
            ⟧
            var reference = typeof base === 'function'
                ? callable(base, function () ⟦ return reference; ⟧)
                : ⟦⟧;
            attach(reference, channel, id, parent);
            parent[id] = reference;
            return reference;
        ⟧,

        invokeNative: function (opcode) ⟦
            var args = marshal(slice.call(arguments, 1));
            var hash = opcode.lastIndexOf('#');
            var name = hash < 0 ? opcode : opcode.slice(0, hash);
            var sync = hash >= 0 && opcode.charAt(opcode.length - 1) === 's';
            var body = encode(name, this.$target, args);
            if (sync) ⟦
                return (0, eval)('(' + postSync(this.$channel, body) + ')');
            ⟧
            post(this.$channel, body);
        ⟧,

        defineProperty: function (obj, key, initial, writable) ⟦
            var cache = ⟦ resolved: false, value: undefined ⟧;
            Object.defineProperty(obj, key, ⟦
                configurable: true,
                enumerable: true,
                get: function () ⟦
                    if (hasOwn.call(this.$values, key)) ⟦
                        return this.$values[key];
                    ⟧
                    if (!cache.resolved) ⟦
                        cache.value = initial();
                        cache.resolved = true;
                    ⟧
                    return cache.value;
                ⟧,
                set: function (value) ⟦
                    if (!writable) ⟦
                        throw new TypeError(\"property '\" + key + \"' is read-only\");
                    ⟧
                    this.$values[key] = value;
                    post(this.$channel, encode(key, this.$target, value));
                ⟧
            ⟧);
        ⟧,

        dispose: function (obj) ⟦
            post(obj.$channel, encode('-', obj.$target));
            if (obj.$owner) ⟦
                delete obj.$owner[obj.$target];
            ⟧
        ⟧,

        complete: function (id, error, result) ⟦
            var callback = callbacks[id];
            if (callback === undefined) ⟦
                return;
            ⟧
            delete callbacks[id];
            callback(error, result);
        ⟧,

        evaluate: function (source) ⟦
            var value = (0, eval)(source);
            return value === undefined ? undefined : JSON.stringify(value);
        ⟧
    ⟧;

    Object.defineProperty(global, 'LatchScripting', ⟦ value: Object.freeze(LatchScripting) ⟧);
⟧)"

/-- The functions that post messages, by their global names. -/
def messengers : List (String × Builtin) :=
  [("__latchPostMessage", .post), ("__latchPostMessageSync", .ask)]

open Act

/-- Adds a function that posts messages. -/
def provideMessenger (name : String) (b : Builtin) : Act Unit := do
  let function ← addPlainFunction (.builtin b) "" 2
  put Realm.globalObject (.whole name) (.plain (.object function))

/-- Adds the script half to a realm. -/
def build : Act Unit := do
  messengers.forM fun (name, b) => provideMessenger name b
  let machine := machineAt callDepth
  let follow ← addPlainFunction (.builtin .follow) "lookup" 2
  let install ← machine.run false text
  discard (machine.call install .undefined [Machine.globalDatum, .object follow])

end Gateway

/-- A realm in which no script has run. -/
def Realm.initial : Realm := ((Gateway.build.run.run Realm.standard).alone "").2

end ScriptBridge.Script

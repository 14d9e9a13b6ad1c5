import Scaffold.Role
import Scaffold.Template

/-!
The fixed text of each role's file, line by line.  A slot stands for the package and name of the
file's own class, for its companions, or for the fields of the table.
-/

namespace Scaffold.Skeleton

/-- Lines one below the other, each with its line break. -/
def lines (templates : List Template) : Template :=
  templates.flatMap (· ++ [.literal "\n"])

def po : Template := lines [
  ["package ", .slot "package", ";"],
  [],
  ["import com.baomidou.mybatisplus.annotation.TableName;"],
  ["import ", .slot "basePackage", ".util.infrastructure.persistence.po.base.BaseAutoIdPo;"],
  [.slot "imports", "import lombok.Data;"],
  ["import lombok.EqualsAndHashCode;"],
  [],
  [.slot "javadoc"],
  ["@Data"],
  ["@EqualsAndHashCode(callSuper = true)"],
  ["@TableName(\"", .slot "tableName", "\")"],
  ["public class ", .slot "className", " extends BaseAutoIdPo \x7b"],
  [],
  [.slot "fields"],
  [],
  ["\x7d"]]

def mapper : Template := lines [
  ["package ", .slot "package", ";"],
  [],
  ["import com.baomidou.mybatisplus.core.mapper.BaseMapper;"],
  ["import ", .slot "poImport", ";"],
  [],
  [.slot "javadoc"],
  ["public interface ", .slot "className", " extends BaseMapper<", .slot "poClassName",
    "> \x7b\x7d"]]

def repository : Template := lines [
  ["package ", .slot "package", ";"],
  [],
  ["import ", .slot "mapperImport", ";"],
  ["import javax.annotation.Resource;"],
  ["import lombok.extern.slf4j.Slf4j;"],
  ["import org.springframework.stereotype.Repository;"],
  [],
  [.slot "javadoc"],
  ["@Repository"],
  ["@Slf4j"],
  ["public class ", .slot "className", " \x7b"],
  [],
  ["  @Resource"],
  ["  private ", .slot "mapperClassName", " ", .slot "mapperMemberName", ";"],
  [],
  ["\x7d"]]

def factory : Template := lines [
  ["package ", .slot "package", ";"],
  [],
  ["import ", .slot "entityImport", ";"],
  ["import org.springframework.stereotype.Component;"],
  [],
  [.slot "javadoc"],
  ["@Component"],
  ["public class ", .slot "className", " \x7b"],
  [],
  ["  public ", .slot "entityClassName", " create() \x7b"],
  ["    return new ", .slot "entityClassName", "();"],
  ["  \x7d"],
  [],
  ["\x7d"]]

def entity : Template := lines [
  ["package ", .slot "package", ";"],
  [],
  ["import ", .slot "basePackage", ".util.domain.entity.base.BaseEntity;"],
  [.slot "imports", "import lombok.Data;"],
  ["import lombok.EqualsAndHashCode;"],
  [],
  [.slot "javadoc"],
  ["@Data"],
  ["@EqualsAndHashCode(callSuper = true)"],
  ["public class ", .slot "className", " extends BaseEntity \x7b"],
  [],
  [.slot "fields"],
  [],
  ["\x7d"]]

def appService : Template := lines [
  ["package ", .slot "package", ";"],
  [],
  ["import ", .slot "factoryImport", ";"],
  ["import ", .slot "repositoryImport", ";"],
  ["import javax.annotation.Resource;"],
  ["import lombok.extern.slf4j.Slf4j;"],
  ["import org.springframework.stereotype.Service;"],
  [],
  [.slot "javadoc"],
  ["@Service"],
  ["@Slf4j"],
  ["public class ", .slot "className", " \x7b"],
  [],
  ["  @Resource"],
  ["  private ", .slot "repositoryClassName", " ", .slot "repositoryMemberName", ";"],
  [],
  ["  @Resource"],
  ["  private ", .slot "factoryClassName", " ", .slot "factoryMemberName", ";"],
  [],
  ["\x7d"]]

def assembler : Template := lines [
  ["package ", .slot "package", ";"],
  [],
  ["import ", .slot "entityImport", ";"],
  ["import ", .slot "poImport", ";"],
  ["import org.springframework.beans.BeanUtils;"],
  ["import org.springframework.stereotype.Component;"],
  [],
  [.slot "javadoc"],
  ["@Component"],
  ["public class ", .slot "className", " \x7b"],
  [],
  ["  public ", .slot "entityClassName", " toEntity(", .slot "poClassName", " po) \x7b"],
  ["    if (po == null) \x7b"],
  ["      return null;"],
  ["    \x7d"],
  ["    ", .slot "entityClassName", " entity = new ", .slot "entityClassName", "();"],
  ["    BeanUtils.copyProperties(po, entity);"],
  ["    return entity;"],
  ["  \x7d"],
  [],
  ["  public ", .slot "poClassName", " toPo(", .slot "entityClassName", " entity) \x7b"],
  ["    if (entity == null) \x7b"],
  ["      return null;"],
  ["    \x7d"],
  ["    ", .slot "poClassName", " po = new ", .slot "poClassName", "();"],
  ["    BeanUtils.copyProperties(entity, po);"],
  ["    return po;"],
  ["  \x7d"],
  [],
  ["\x7d"]]

def ofRole : Role → Template
  | .po => po
  | .mapper => mapper
  | .repository => repository
  | .factory => factory
  | .entity => entity
  | .appService => appService
  | .assembler => assembler

end Scaffold.Skeleton
